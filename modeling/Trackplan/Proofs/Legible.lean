import Trackplan.Expr.Soundness
import Trackplan.Name
import Trackplan.Text.Occurrence

/-! Legible expressions: valid trees whose names and texts can be told apart in grammar source. A
rule's name has a small letter, a token class has none, quoted texts hold no quotes, and no note
closes itself. -/
namespace Trackplan

def Terminal.isPlain (t : Terminal) : Bool :=
  match t.kind with
  | .token => Kind.ofText t.text = .token
  | .literal | .keyword | .softKeyword =>
    !t.text.toList.contains '\'' && !t.text.toList.contains '"'

namespace Terminal.Kind

theorem ofText_eq_token {text : String} : ofText text = .token ↔
    (∀ c ∈ text.toList, c.isUpper = true ∨ c = '_') ∧ ∃ c ∈ text.toList, c.isUpper = true := by
  unfold ofText
  split <;> simp_all

theorem fault?_of_token {text : String} (token : ofText text = .token) :
    Name.fault? text = none := by
  obtain ⟨all, c, mem, -⟩ := ofText_eq_token.1 token
  refine Name.fault?_eq_none.2 ⟨?_, fun c mem => ?_⟩
  · rintro rfl; simp at mem
  · rcases all c mem with upper | rfl
    · change (((c.isUpper || c.isLower) || c.isDigit) || decide (c = '_')) = true
      rw [upper]; rfl
    · rfl

theorem ofText_ne_token {text : String} (small : text.toList.any Char.isLower = true) :
    ofText text ≠ .token := by
  intro token
  obtain ⟨c, mem, lower⟩ := List.any_eq_true.1 small
  rcases (ofText_eq_token.1 token).1 c mem with upper | rfl
  · have above : 'a'.val ≤ c.val := of_decide_eq_true ((Bool.and_eq_true_iff.1 lower).1)
    have below : c.val ≤ 'Z'.val := (of_decide_eq_true upper).2
    exact absurd (UInt32.le_trans above below) (by decide)
  · cases lower

end Terminal.Kind

namespace Expr

/-- The expression and all its subexpressions have the property. -/
def Everywhere (p : Expr → Prop) (e : Expr) : Prop := ∀ n ∈ e.nodes, p n

section

variable {p : Expr → Prop}

theorem everywhere_sequence {items : List Expr} :
    Everywhere p (.sequence items) ↔ p (.sequence items) ∧ ∀ e ∈ items, Everywhere p e := by
  simp only [Everywhere, nodes_sequence, List.forall_mem_cons, List.forall_mem_flatMap]

theorem everywhere_choice {options : List Expr} {default : Nat} :
    Everywhere p (.choice options default) ↔
      p (.choice options default) ∧ ∀ e ∈ options, Everywhere p e := by
  simp only [Everywhere, nodes_choice, List.forall_mem_cons, List.forall_mem_flatMap]

theorem everywhere_optional {body : Expr} :
    Everywhere p (.optional body) ↔ p (.optional body) ∧ Everywhere p body := by
  simp [Everywhere, nodes]

theorem everywhere_repetition {least : Least} {body : Expr} {separator : Option Expr} :
    Everywhere p (.repetition least body separator) ↔ p (.repetition least body separator) ∧
      Everywhere p body ∧ ∀ s ∈ separator, Everywhere p s := by
  cases separator <;> simp [Everywhere, nodes, or_imp, forall_and]

theorem Everywhere.root {e : Expr} (holds : Everywhere p e) : p e := by
  apply holds
  cases e with
  | repetition least body separator => cases separator <;> simp [nodes]
  | _ => simp [nodes]

end

def isPlainLeaf : Expr → Bool
  | .terminal t => t.isPlain
  | .reference name => (Name.fault? name).isNone && name.toList.any Char.isLower
  | .note text => !Text.occursIn ['*', '/'] text.toList
  | _ => true

def Plain (e : Expr) : Prop := e.Everywhere fun n => n.isPlainLeaf = true

structure Legible (e : Expr) : Prop where
  valid : e.fault? = none
  plain : e.Plain

instance : DecidablePred Plain := fun e =>
  inferInstanceAs (Decidable (∀ n ∈ e.nodes, n.isPlainLeaf = true))

instance : DecidablePred Legible := fun e =>
  decidable_of_iff (e.fault? = none ∧ e.Plain) ⟨fun h => ⟨h.1, h.2⟩, fun h => ⟨h.valid, h.plain⟩⟩

theorem fault?_eq_none {e : Expr} : e.fault? = none ↔ e.Everywhere fun n => n.ownFault? = none := by
  rw [fault?_eq_findSome?, List.findSome?_eq_none_iff, Everywhere]

theorem legible_iff {e : Expr} :
    e.Legible ↔ e.Everywhere fun n => n.ownFault? = none ∧ n.isPlainLeaf = true := by
  constructor
  · intro legible n mem
    exact ⟨fault?_eq_none.1 legible.valid n mem, legible.plain n mem⟩
  · intro holds
    exact ⟨fault?_eq_none.2 fun n mem => (holds n mem).1, fun n mem => (holds n mem).2⟩

theorem legible_sequence {items : List Expr} :
    Legible (.sequence items) ↔ ∀ e ∈ items, e.Legible := by
  simp only [legible_iff, everywhere_sequence]
  exact and_iff_right ⟨rfl, rfl⟩

theorem legible_choice {options : List Expr} {default : Nat} :
    Legible (.choice options default) ↔ default < options.length ∧ ∀ e ∈ options, e.Legible := by
  simp only [legible_iff, everywhere_choice]
  exact and_congr_left' ((and_iff_left rfl).trans choiceFault?_eq_none)

theorem legible_optional {body : Expr} : Legible (.optional body) ↔ body.Legible := by
  simp only [legible_iff, everywhere_optional]
  exact and_iff_right ⟨rfl, rfl⟩

theorem legible_repetition {least : Least} {body : Expr} {separator : Option Expr} :
    Legible (.repetition least body separator) ↔
      body.isEmpty = false ∧ body.Legible ∧ ∀ s ∈ separator, s.Legible := by
  simp only [legible_iff, everywhere_repetition]
  exact and_congr_left' ((and_iff_left rfl).trans repetitionFault?_eq_none)

end Expr

end Trackplan
