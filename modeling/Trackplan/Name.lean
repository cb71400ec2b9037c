import Trackplan.Text.Escape

/-! Names of rules and sections: letters, digits and low lines of ASCII, at least one. Such a name
needs no escaping anywhere it is written. -/
namespace Trackplan

namespace Name

inductive Fault
  | empty
  | badChar (c : Char)
  deriving DecidableEq, Repr

def Fault.message : Fault → String
  | .empty => "identifier must not be empty"
  | .badChar c => "identifier must not contain " ++ Text.quotedChar c

def allows (c : Char) : Bool := c.isAlphanum || c = '_'

/-- The first thing wrong with a text as a name. -/
def fault? (text : String) : Option Fault :=
  match text.toList with
  | [] => some .empty
  | chars => (chars.find? (fun c => !allows c)).map .badChar

end Name

structure Name where
  text : String
  valid : Name.fault? text = none
  deriving DecidableEq

namespace Name

instance : Repr Name := ⟨fun name precedence => reprPrec name.text precedence⟩

instance : ToString Name := ⟨Name.text⟩

def ofText (text : String) : Except Fault Name :=
  match h : fault? text with
  | none => .ok ⟨text, h⟩
  | some fault => .error fault

def ofText? (text : String) : Option Name := (ofText text).toOption

def ofTexts (texts : List String) : Except Fault (List Name) := texts.mapM ofText

/-- Order by code points. -/
def sorted (names : List Name) : List Name := names.mergeSort (fun a b => a.text ≤ b.text)

@[ext] theorem ext {a b : Name} (h : a.text = b.text) : a = b := by
  cases a; cases b; simp_all

theorem text_injective : Function.Injective Name.text := fun _ _ => ext

theorem ofText_text (name : Name) : ofText name.text = .ok name := by
  unfold ofText
  split
  · rfl
  · rename_i fault h; rw [name.valid] at h; cases h

theorem ofText_eq_ok {text : String} {name : Name} :
    ofText text = .ok name ↔ name.text = text := by
  constructor
  · intro h
    unfold ofText at h
    split at h
    · injection h with h; rw [← h]
    · cases h
  · rintro rfl; exact ofText_text name

theorem ofText_eq_error {text : String} {fault : Fault} :
    ofText text = .error fault ↔ fault? text = some fault := by
  unfold ofText
  split <;> rename_i h <;> simp [h]

theorem ofText?_text (name : Name) : ofText? name.text = some name := by
  simp [ofText?, ofText_text, Except.toOption]

theorem fault?_eq_none {text : String} :
    fault? text = none ↔ text ≠ "" ∧ ∀ c ∈ text.toList, allows c = true := by
  unfold fault?
  split
  · rename_i h
    have : text = "" := String.toList_injective h
    simp [this]
  · rename_i h
    have : text ≠ "" := by rintro rfl; exact h rfl
    simp [this]

end Name

end Trackplan
