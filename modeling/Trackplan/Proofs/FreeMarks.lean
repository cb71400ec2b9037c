import Trackplan.Proofs.Core

/-! One-or-more marks and the separators that take them. A separator takes the first mark after it
that is still free, so it takes a free mark of the body before the one that ends the repetition. -/
namespace Trackplan.Expr

/-- The text has a one-or-more mark, outside all brackets, that no separator before it takes. -/
def hasFreeMark : Expr → Bool
  | .sequence [e] => hasFreeMark e
  | .choice [e] _ => hasFreeMark e
  | .repetition .one _ none => true
  | .repetition .zero body none => hasFreeMark body
  | .repetition .one _ (some separator) => hasFreeMark separator
  | _ => false

/-- Down to the first free mark. -/
@[elab_as_elim]
theorem freeMark_induct {P : ∀ e : Expr, e.hasFreeMark = true → Prop}
    (item : ∀ e free, P e free → P (.sequence [e]) free)
    (option : ∀ e default free, P e free → P (.choice [e] default) free)
    (star : ∀ body free, P body free → P (.repetition .zero body none) free)
    (plus : ∀ body, body.hasFreeMark = false → P (.repetition .one body none) rfl)
    (doubled : ∀ body free, P body free → P (.repetition .one body none) rfl)
    (separator : ∀ body s free, P s free → P (.repetition .one body (some s)) free)
    (e : Expr) (free : e.hasFreeMark = true) : P e free := by
  induction e using Expr.induct with
  | terminal | reference | note | optional => cases free
  | sequence items ih =>
    match items with
    | [] | _ :: _ :: _ => cases free
    | [e] => exact item e free (ih e (by simp) free)
  | choice options default ih =>
    match options with
    | [] | _ :: _ :: _ => cases free
    | [e] => exact option e default free (ih e (by simp) free)
  | repetition least body s ih ihSeparator =>
    match least, s with
    | .zero, none => exact star body free (ih free)
    | .zero, some s => cases free
    | .one, some s => exact separator body s free (ihSeparator s rfl free)
    | .one, none =>
      cases kept : body.hasFreeMark with
      | false => exact plus body kept
      | true => exact doubled body kept (ih kept)

/-- The expression's own separator, if any, takes no mark of the repeated body. -/
def takesOwnMark : Expr → Bool
  | .repetition _ body (some _) => !body.hasFreeMark
  | _ => true

/-- No separator takes a mark that is not its own. -/
def CaptureFree (e : Expr) : Prop := e.Everywhere fun n => n.takesOwnMark = true

instance : DecidablePred CaptureFree := fun e =>
  inferInstanceAs (Decidable (∀ n ∈ e.nodes, n.takesOwnMark = true))

theorem captureFree_sequence {items : List Expr} :
    CaptureFree (.sequence items) ↔ ∀ e ∈ items, e.CaptureFree :=
  everywhere_sequence.trans (and_iff_right rfl)

theorem captureFree_choice {options : List Expr} {default : Nat} :
    CaptureFree (.choice options default) ↔ ∀ e ∈ options, e.CaptureFree :=
  everywhere_choice.trans (and_iff_right rfl)

theorem captureFree_ofItems {items : List Expr} :
    CaptureFree (ofItems items) ↔ ∀ e ∈ items, e.CaptureFree := by
  unfold ofItems
  split
  · simp
  · exact captureFree_sequence

theorem captureFree_ofOptions {options : List Expr} :
    CaptureFree (ofOptions options) ↔ ∀ e ∈ options, e.CaptureFree := by
  unfold ofOptions
  split
  · simp
  · exact captureFree_choice

theorem captureFree_optional {body : Expr} : CaptureFree (.optional body) ↔ body.CaptureFree :=
  everywhere_optional.trans (and_iff_right rfl)

theorem captureFree_repeated {least : Least} {body : Expr} :
    CaptureFree (.repetition least body none) ↔ body.CaptureFree := by
  simp [CaptureFree, everywhere_repetition, takesOwnMark]

theorem captureFree_separated {least : Least} {body separator : Expr} :
    CaptureFree (.repetition least body (some separator)) ↔
      body.hasFreeMark = false ∧ body.CaptureFree ∧ separator.CaptureFree := by
  simp [CaptureFree, everywhere_repetition, takesOwnMark]

theorem hasFreeMark_core (e : Expr) : e.core.hasFreeMark = e.hasFreeMark := by
  induction e using Expr.induct with
  | terminal | reference | note | optional => rfl
  | sequence items ih =>
    match items with
    | [] => rfl
    | [e] => exact ih e (by simp)
    | e :: f :: rest => rfl
  | choice options default ih =>
    match options with
    | [] => rfl
    | [e] => exact ih e (by simp)
    | e :: f :: rest => rfl
  | repetition least body separator ih ihSeparator =>
    cases separator with
    | none =>
      cases least with
      | zero => exact ih
      | one => rfl
    | some s =>
      cases least with
      | zero => rfl
      | one => exact ihSeparator s rfl

theorem captureFree_core (e : Expr) : e.core.CaptureFree ↔ e.CaptureFree := by
  induction e using Expr.induct with
  | terminal | reference | note => simp [CaptureFree, Everywhere, core, nodes, takesOwnMark]
  | sequence items ih =>
    rw [core_sequence, captureFree_ofItems, captureFree_sequence, List.forall_mem_map]
    exact forall₂_congr ih
  | choice options default ih =>
    rw [core_choice, captureFree_ofOptions, captureFree_choice, List.forall_mem_map]
    exact forall₂_congr ih
  | optional body ih => exact captureFree_optional.trans (ih.trans captureFree_optional.symm)
  | repetition least body separator ih ihSeparator =>
    cases separator with
    | none =>
      rw [captureFree_repeated, ← ih]
      cases least <;> exact captureFree_repeated
    | some s =>
      rw [captureFree_separated, ← ih, ← ihSeparator s rfl, ← hasFreeMark_core body]
      cases least with
      | zero => exact captureFree_optional.trans captureFree_separated
      | one => exact captureFree_separated

end Trackplan.Expr
