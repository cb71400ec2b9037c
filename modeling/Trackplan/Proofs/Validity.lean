import Trackplan.Expr.Soundness

/-! Three ways to tell a valid expression: it has no fault, no node on the walk through it fails, and
it can be built anew from its leaves. The fault of an expression is that of the first node to fail. -/
namespace Trackplan.Expr

/-- What can be wrong with a node apart from its parts. -/
inductive Fails : Expr → Fault → Prop
  | noOption (default : Nat) : Fails (.choice [] default) .emptyChoice
  | outOfRange {options : List Expr} {default : Nat} :
      options ≠ [] → options.length ≤ default →
      Fails (.choice options default) (.defaultOutOfRange default options.length)
  | emptyBody (least : Least) {body : Expr} (separator : Option Expr) :
      body.isEmpty = true → Fails (.repetition least body separator) .emptyRepetition

/-- Nothing is wrong with the node apart from its parts. -/
def Passes : Expr → Prop
  | .choice options default => options ≠ [] ∧ default < options.length
  | .repetition _ body _ => body.isEmpty = false
  | _ => True

theorem ownFault?_eq_none {n : Expr} : n.ownFault? = none ↔ n.Passes := by
  cases n with
  | choice options default =>
    rw [ownFault?, choiceFault?_eq_none, Passes, iff_and_self]
    rintro inRange rfl
    exact absurd inRange (Nat.not_lt_zero default)
  | repetition least body separator => exact repetitionFault?_eq_none
  | terminal | reference | note | sequence | optional => exact iff_of_true rfl trivial

theorem fails_of_ownFault? {n : Expr} {fault : Fault} (found : n.ownFault? = some fault) :
    n.Fails fault := by
  cases n with
  | choice options default =>
    rw [ownFault?, choiceFault?] at found
    by_cases none : options.length = 0
    · cases List.length_eq_zero_iff.1 none
      cases found
      exact .noOption default
    · rw [if_neg none] at found
      split at found
      · cases found
      · rename_i outside
        cases found
        exact .outOfRange (mt List.length_eq_zero_iff.2 none) (Nat.not_lt.1 outside)
  | repetition least body separator =>
    rw [ownFault?, repetitionFault?] at found
    split at found
    · rename_i empty
      cases found
      exact .emptyBody least separator empty
    · cases found
  | terminal | reference | note | sequence | optional => cases found

theorem Fails.ownFault?_eq {n : Expr} {fault : Fault} (fails : n.Fails fault) :
    n.ownFault? = some fault := by
  cases fails with
  | noOption default => rfl
  | outOfRange some outside =>
    rw [ownFault?, choiceFault?, if_neg (mt List.length_eq_zero_iff.1 some),
      if_neg (Nat.not_lt.2 outside)]
  | emptyBody least separator empty => rw [ownFault?, repetitionFault?, if_pos empty]

theorem ownFault?_eq_some {n : Expr} {fault : Fault} :
    n.ownFault? = some fault ↔ n.Fails fault :=
  ⟨fails_of_ownFault?, Fails.ownFault?_eq⟩

theorem ofChoice_eq_ok {options : List Expr} {default : Nat} {r : Expr} :
    ofChoice options default = .ok r ↔
      r = .choice options default ∧ choiceFault? options.length default = none := by
  cases own : choiceFault? options.length default <;> simp [ofChoice, own, eq_comm]

theorem ofRepetition_eq_ok {least : Least} {body : Expr} {separator : Option Expr} {r : Expr} :
    ofRepetition least body separator = .ok r ↔
      r = .repetition least body separator ∧ repetitionFault? body = none := by
  cases own : repetitionFault? body <;> simp [ofRepetition, own, eq_comm]

theorem bind_eq_ok {α β : Type} {x : Except Fault α} {f : α → Except Fault β} {b : β} :
    (x >>= f) = .ok b ↔ ∃ a, x = .ok a ∧ f a = .ok b := by
  cases x <;> simp [bind, Except.bind]

theorem pure_eq_ok {α : Type} {a b : α} : (pure a : Except Fault α) = .ok b ↔ b = a := by
  simp [pure, Except.pure, eq_comm]

theorem orElse_eq_none {x y : Option Fault} : (x <|> y) = none ↔ x = none ∧ y = none := by
  rw [Option.orElse_eq_orElse, Option.orElse_eq_or, Option.or_eq_none_iff]

theorem rebuiltAll_eq_ok {es rs : List Expr}
    (parts : ∀ e ∈ es, ∀ r, e.rebuilt = .ok r ↔ r = e ∧ e.fault? = none) :
    rebuiltAll es = .ok rs ↔ rs = es ∧ faultIn? es = none := by
  induction es generalizing rs with
  | nil => simp [rebuiltAll, faultIn?, eq_comm]
  | cons e rest ih =>
    have first := parts e List.mem_cons_self
    have others (es : List Expr) : rebuiltAll rest = .ok es ↔ es = rest ∧ faultIn? rest = none :=
      ih fun e mem => parts e (List.mem_cons_of_mem _ mem)
    simp only [rebuiltAll, bind_eq_ok, first, others, pure_eq_ok, faultIn?, orElse_eq_none,
      and_assoc, exists_eq_left]
    exact and_rotate.symm

/-- An expression is built anew as it was, or not at all. -/
theorem rebuilt_eq_ok (e r : Expr) : e.rebuilt = .ok r ↔ r = e ∧ e.fault? = none := by
  induction e using Expr.induct generalizing r with
  | terminal | reference | note => simp [rebuilt, fault?, eq_comm]
  | sequence items ih =>
    simp only [rebuilt, bind_eq_ok, rebuiltAll_eq_ok ih, pure_eq_ok, fault?, and_assoc,
      exists_eq_left]
    exact and_comm
  | choice options default ih =>
    simp only [rebuilt, bind_eq_ok, rebuiltAll_eq_ok ih, ofChoice_eq_ok, fault?, orElse_eq_none,
      and_assoc, exists_eq_left]
    exact and_rotate
  | optional body ih =>
    simp only [rebuilt, bind_eq_ok, ih, pure_eq_ok, fault?, and_assoc, exists_eq_left]
    exact and_comm
  | repetition least body separator ih sep =>
    cases separator with
    | none =>
      simp only [rebuilt, bind_eq_ok, ih, ofRepetition_eq_ok, fault?, orElse_eq_none, and_assoc,
        exists_eq_left]
      exact and_rotate
    | some s =>
      simp only [rebuilt, bind_eq_ok, ih, sep s rfl, ofRepetition_eq_ok, fault?, orElse_eq_none,
        and_assoc, exists_eq_left]
      rw [← and_assoc, and_comm, and_assoc]

/-- The checks of a whole expression, of its nodes one by one and of its making agree, and the fault
of the whole is that of the first node to fail. -/
theorem validity_views_agree (e : Expr) :
    (e.fault? = none ↔ ∀ n ∈ e.nodes, n.Passes) ∧
    (∀ fault, e.fault? = some fault ↔ ∃ before n after,
      e.nodes = before ++ n :: after ∧ (∀ m ∈ before, m.Passes) ∧ n.Fails fault) ∧
    (e.fault? = none ↔ e.rebuilt = .ok e) ∧
    ((∃ r, e.rebuilt = .ok r) ↔ e.rebuilt = .ok e) := by
  have built : e.rebuilt = .ok e ↔ e.fault? = none :=
    (rebuilt_eq_ok e e).trans (and_iff_right rfl)
  refine ⟨?_, fun fault => ?_, built.symm, ?_⟩
  · simp only [fault?_eq_findSome?, List.findSome?_eq_none_iff, ownFault?_eq_none]
  · simp only [fault?_eq_findSome?, List.findSome?_eq_some_iff, ownFault?_eq_none,
      ownFault?_eq_some]
    exact exists₃_congr fun before n after => and_congr_right' and_comm
  · constructor
    · rintro ⟨r, made⟩
      exact built.2 ((rebuilt_eq_ok e r).1 made).2
    · intro made
      exact ⟨e, made⟩

end Trackplan.Expr
