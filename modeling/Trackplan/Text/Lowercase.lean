import Trackplan.Unicode.Case
import Trackplan.Unicode.Property

/-! Lower case of a whole text. One character may become two, and the capital sigma takes its
final form at the end of a word, so a text is not lowered character by character. -/
namespace Trackplan.Text

open Unicode

/-- The first character that is not ignored is a cased one. -/
def meetsCased : List Char → Bool
  | [] => false
  | c :: rest => if isCaseIgnorable c then meetsCased rest else isCased c

/-- Lower case of a capital sigma between the text before it, read backwards, and the text after. -/
def loweredSigma (before after : List Char) : Char :=
  if meetsCased before && !meetsCased after then 'ς' else 'σ'

/-- Lower case of a character apart from its place; only the dotted capital I becomes two. -/
def loweredAlone (c : Char) : List Char :=
  if c = 'İ' then ['i', '\u0307'] else [mapped lowercaseRuns c]

def loweredFrom (before : List Char) : List Char → List Char
  | [] => []
  | c :: after =>
    (if c = 'Σ' then [loweredSigma before after] else loweredAlone c) ++
      loweredFrom (c :: before) after

def lowered (text : List Char) : List Char := loweredFrom [] text

def lowercase (text : String) : String := .ofList (lowered text.toList)

@[simp] theorem lowered_nil : lowered [] = [] := rfl

@[simp] theorem toList_lowercase (text : String) :
    (lowercase text).toList = lowered text.toList := by
  simp [lowercase]

theorem loweredAlone_ne_nil (c : Char) : loweredAlone c ≠ [] := by
  unfold loweredAlone; split <;> simp

/-- No character disappears when its case is lowered. -/
theorem loweredFrom_eq_nil (before text : List Char) :
    loweredFrom before text = [] ↔ text = [] := by
  cases text with
  | nil => simp [loweredFrom]
  | cons c after =>
    simp only [loweredFrom, List.append_eq_nil_iff, reduceCtorEq, iff_false, not_and]
    intro h
    split at h
    · simp at h
    · exact absurd h (loweredAlone_ne_nil c)

end Trackplan.Text
