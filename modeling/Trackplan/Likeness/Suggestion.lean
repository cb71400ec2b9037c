import Trackplan.Text.Lowercase
import Trackplan.Text.Occurrence
import Trackplan.Text.Trim

/-! Suggesting names that are like a given one, by any measure of likeness. Case and surrounding
blanks do not count, and a name that is the same but for these is no suggestion. -/
namespace Trackplan.Likeness

def containmentBonus : Int := 300
def beginningBonus : Int := 100

/-- Names below this score are not worth suggesting. -/
def threshold : Int := 500

/-- The letters before the first low line. -/
def firstWord (text : List Char) : List Char := text.takeWhile (· ≠ '_')

/-- What a measure of likeness gives a name, with a bonus if one text contains the other and one if
the name starts like the needle. -/
def points (likeness : List Char → List Char → Int) (needle name : List Char) : Int :=
  let contained := Text.occursIn needle name || Text.occursIn name needle
  likeness needle name +
    (if contained then containmentBonus else 0) +
    (if Text.startsWith name (firstWord needle) then beginningBonus else 0)

/-- The score of a name, if it is high enough. -/
def score? (likeness : List Char → List Char → Int) (needle name : List Char) : Option Int :=
  if needle = name then none
  else
    let total := points likeness needle name
    if threshold ≤ total then some total else none

structure Scored (α : Type) where
  score : Int
  name : α

variable {α : Type}

def Scored.mayPrecede (a b : Scored α) : Bool := b.score ≤ a.score

def scored (likeness : List Char → List Char → Int) (text : α → String) (needle : List Char)
    (names : List α) : List (Scored α) :=
  names.filterMap fun name =>
    (score? likeness needle (Text.lowered (text name).toList)).map (⟨·, name⟩)

/-- The best scores first; of two that are the same, the one that came first. -/
def ranked (entries : List (Scored α)) : List (Scored α) := entries.mergeSort Scored.mayPrecede

/-- The text that names are compared with. -/
def form (needle : String) : List Char := Text.lowered (Text.trimmed needle.toList)

/-- The best names first; of two with the same score, the one that came first. -/
def suggestBy (likeness : List Char → List Char → Int) (text : α → String) (names : List α)
    (needle : String) (limit : Nat) : List α :=
  if form needle = [] then []
  else ((ranked (scored likeness text (form needle) names)).take limit).map Scored.name

theorem score?_eq_some {likeness : List Char → List Char → Int} {needle name : List Char}
    {score : Int} : score? likeness needle name = some score ↔
      needle ≠ name ∧ points likeness needle name = score ∧ threshold ≤ score := by
  unfold score?
  split
  · simp_all
  · simp only [Option.ite_none_right_eq_some, Option.some.injEq]
    constructor
    · rintro ⟨enough, rfl⟩; exact ⟨‹_›, rfl, enough⟩
    · rintro ⟨-, rfl, enough⟩; exact ⟨enough, rfl⟩

theorem mem_scored {likeness : List Char → List Char → Int} {text : α → String}
    {needle : List Char} {names : List α} {entry : Scored α} :
    entry ∈ scored likeness text needle names ↔ entry.name ∈ names ∧
      score? likeness needle (Text.lowered (text entry.name).toList) = some entry.score := by
  simp only [scored, List.mem_filterMap, Option.map_eq_some_iff]
  constructor
  · rintro ⟨name, mem, score, found, rfl⟩; exact ⟨mem, found⟩
  · rintro ⟨mem, found⟩; exact ⟨entry.name, mem, entry.score, found, rfl⟩

end Trackplan.Likeness
