import Trackplan.Grammar.Basic

/-! The references between the rules of a grammar. A body that refers to a rule several times
counts once, at its first mention. -/
namespace Trackplan

section Firsts

variable {α : Type} [DecidableEq α]

/-- The first occurrence of every element. -/
def firsts : List α → List α
  | [] => []
  | a :: rest => a :: (firsts rest).filter (· ≠ a)

/-- Passes over what was seen before. -/
def unseen (seen : List α) : List α → List α
  | [] => []
  | a :: rest => if a ∈ seen then unseen seen rest else a :: unseen (a :: seen) rest

/-- Adds an element to the end of a collection that does not have it. -/
def collect (collected : List α) (a : α) : List α :=
  if a ∈ collected then collected else collected ++ [a]

theorem mem_firsts {a : α} {as : List α} : a ∈ firsts as ↔ a ∈ as := by
  induction as with
  | nil => simp [firsts]
  | cons b rest ih =>
    by_cases h : a = b <;> simp [firsts, h, ih]

theorem nodup_firsts (as : List α) : (firsts as).Nodup := by
  induction as with
  | nil => simp [firsts]
  | cons a rest ih => exact List.nodup_cons.2 ⟨by simp, List.Pairwise.filter _ ih⟩

/-- What is new in a list beside what was seen: its head is new or was seen. -/
theorem filter_firsts_cons (seen : List α) (a : α) (rest : List α) :
    (firsts (a :: rest)).filter (· ∉ seen) =
      if a ∈ seen then (firsts rest).filter (· ∉ seen)
      else a :: (firsts rest).filter (· ∉ a :: seen) := by
  split
  · rename_i known
    rw [firsts, List.filter_cons_of_neg (by simpa using known), List.filter_filter]
    refine List.filter_congr fun b _ => ?_
    by_cases same : b = a <;> simp [same, known]
  · rename_i new
    rw [firsts, List.filter_cons_of_pos (by simpa using new), List.filter_filter]
    refine congrArg (a :: ·) (List.filter_congr fun b _ => ?_)
    simp [Bool.and_comm]

theorem unseen_eq (seen as : List α) : unseen seen as = (firsts as).filter (· ∉ seen) := by
  induction as generalizing seen with
  | nil => rfl
  | cons a rest ih => rw [unseen, filter_firsts_cons, ih, ih]

theorem foldl_collect (collected as : List α) :
    as.foldl collect collected = collected ++ (firsts as).filter (· ∉ collected) := by
  induction as generalizing collected with
  | nil => simp [firsts]
  | cons a rest ih =>
    rw [List.foldl_cons, ih, filter_firsts_cons, collect]
    split
    · rfl
    · rw [List.append_assoc]
      refine congrArg (collected ++ a :: ·) (List.filter_congr fun b _ => ?_)
      simp [or_comm]

theorem unseen_nil (as : List α) : unseen [] as = firsts as := by simp [unseen_eq]

theorem foldl_collect_nil (as : List α) : as.foldl collect [] = firsts as := by
  simp [foldl_collect]

end Firsts

/-- A target is kept as it is written; it need not be a name at all. -/
structure Reference where
  source : Name
  target : String
  resolved : Bool
  deriving DecidableEq, Repr

namespace Reference

def statusText (r : Reference) : String := if r.resolved then "resolved" else "dangling"

def text (r : Reference) : String :=
  r.source.text ++ " -> " ++ r.target ++ " (" ++ r.statusText ++ ")"

end Reference

/-- The distinct names referred to. -/
def Expr.targets (e : Expr) : List String := unseen [] e.references

namespace Grammar

/-- All references, rule by rule in order. -/
def references (g : Grammar) : List Reference :=
  g.rules.flatMap fun rule =>
    rule.body.targets.map fun target => ⟨rule.name, target, g.has target⟩

/-- References that lead to no rule. -/
def dangling (g : Grammar) : List Reference := g.references.filter (!·.resolved)

def referencesOf (g : Grammar) (name : String) : Except Undefined (List String) :=
  (g.lookup name).map fun body => body.references.foldl collect []

/-- Rules that refer to the name, whether or not it has a definition. -/
def usedBy (g : Grammar) (name : String) : List Name :=
  (g.rules.filter fun rule => name ∈ rule.body.references).map Rule.name

end Grammar

end Trackplan
