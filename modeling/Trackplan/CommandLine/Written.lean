/-! Results with the texts that are written on the way to them. A fault ends the way, and what was
written before it stays written. -/
namespace Trackplan.CommandLine

structure Written (ε α : Type) where
  result : Except ε α
  output : String := ""
  /-- What goes to the error channel. -/
  remarks : String := ""

namespace Written

variable {ε α β : Type}

instance : Monad (Written ε) where
  pure a := { result := .ok a }
  bind first next :=
    match first.result with
    | .ok a =>
      let rest := next a
      ⟨rest.result, first.output ++ rest.output, first.remarks ++ rest.remarks⟩
    | .error fault => ⟨.error fault, first.output, first.remarks⟩

def write (text : String) : Written ε Unit := { result := .ok (), output := text }

def remark (text : String) : Written ε Unit := { result := .ok (), remarks := text }

/-- Nothing is written on the way to a result that is there already. -/
def ofExcept (result : Except ε α) : Written ε α := { result }

theorem bind_of_ok {first : Written ε α} {a : α} (ok : first.result = .ok a)
    (next : α → Written ε β) :
    first >>= next = ⟨(next a).result, first.output ++ (next a).output,
      first.remarks ++ (next a).remarks⟩ := by
  simp only [bind, ok]

theorem bind_of_error {first : Written ε α} {fault : ε} (failed : first.result = .error fault)
    (next : α → Written ε β) :
    first >>= next = ⟨.error fault, first.output, first.remarks⟩ := by
  simp only [bind, failed]

@[simp] theorem ok_bind (a : α) (next : α → Written ε β) : ofExcept (.ok a) >>= next = next a := by
  rw [bind_of_ok rfl]
  simp only [ofExcept, String.empty_append]

@[simp] theorem error_bind (fault : ε) (next : α → Written ε β) :
    ofExcept (.error fault) >>= next = ofExcept (.error fault) :=
  bind_of_error rfl next

protected theorem bind_pure (first : Written ε α) : first >>= pure = first := by
  cases made : first.result with
  | error fault => rw [bind_of_error made, ← made]
  | ok a =>
    rw [bind_of_ok made]
    change Written.mk (.ok a) (first.output ++ "") (first.remarks ++ "") = first
    rw [String.append_empty, String.append_empty, ← made]

protected theorem bind_assoc {γ : Type} (first : Written ε α) (next : α → Written ε β)
    (last : β → Written ε γ) : first >>= next >>= last = first >>= fun a => next a >>= last := by
  cases made : first.result with
  | error fault => rw [bind_of_error made, bind_of_error made, bind_of_error rfl]
  | ok a =>
    rw [bind_of_ok made, bind_of_ok made]
    cases again : (next a).result with
    | error fault => rw [bind_of_error again, bind_of_error rfl]
    | ok b =>
      rw [bind_of_ok again, bind_of_ok rfl]
      simp only [String.append_assoc]

instance : LawfulMonad (Written ε) :=
  LawfulMonad.mk' _ Written.bind_pure (fun a next => ok_bind a next) Written.bind_assoc

@[simp] theorem write_bind_write (first rest : String) :
    (write first >>= fun _ => write rest : Written ε Unit) = write (first ++ rest) := by
  rw [bind_of_ok rfl]
  simp only [write, String.empty_append]

theorem result_bind_eq_ok {first : Written ε α} {next : α → Written ε β} {b : β} :
    (first >>= next).result = .ok b ↔ ∃ a, first.result = .ok a ∧ (next a).result = .ok b := by
  cases made : first.result with
  | ok a => rw [bind_of_ok made]; simp
  | error fault => rw [bind_of_error made]; simp

variable {items : List α} {step : α → Written ε Unit}

theorem result_forM :
    (items.forM step).result = .ok () ↔ ∀ a ∈ items, (step a).result = .ok () := by
  induction items with
  | nil => exact iff_of_true rfl (fun a none => nomatch none)
  | cons a rest ih =>
    change (step a >>= fun _ => rest.forM step).result = .ok () ↔ _
    rw [result_bind_eq_ok, List.forall_mem_cons, ih]
    constructor
    · rintro ⟨⟨⟩, first, rest⟩; exact ⟨first, rest⟩
    · rintro ⟨first, rest⟩; exact ⟨(), first, rest⟩

/-- Steps that succeed write one after the other. -/
theorem output_forM (ok : ∀ a ∈ items, (step a).result = .ok ()) :
    (items.forM step).output = String.join (items.map fun a => (step a).output) := by
  induction items with
  | nil => rfl
  | cons a rest ih =>
    rw [List.forall_mem_cons] at ok
    change (step a >>= fun _ => rest.forM step).output = _
    rw [bind_of_ok ok.1, ih ok.2, List.map_cons, String.join_cons]

theorem forM_write {text : α → String} (each : ∀ a ∈ items, step a = write (text a)) :
    items.forM step = write (String.join (items.map text)) := by
  induction items with
  | nil => rfl
  | cons a rest ih =>
    rw [List.forall_mem_cons] at each
    change (step a >>= fun _ => rest.forM step) = _
    rw [each.1, ih each.2, write_bind_write, List.map_cons, String.join_cons]

theorem forM_congr {other : α → Written ε Unit} (each : ∀ a ∈ items, step a = other a) :
    items.forM step = items.forM other := by
  induction items with
  | nil => rfl
  | cons a rest ih =>
    rw [List.forall_mem_cons] at each
    change (step a >>= fun _ => rest.forM step) = other a >>= fun _ => rest.forM other
    rw [each.1, ih each.2]

theorem forM_singleton (a : α) : [a].forM step = step a := bind_pure (step a)

/-- Steps passed over write nothing. -/
theorem forM_unless (skips : α → Bool) :
    (items.forM fun a => unless skips a do step a) = (items.filter (!skips ·)).forM step := by
  induction items with
  | nil => rfl
  | cons a rest ih =>
    change ((unless skips a do step a) >>= fun _ => rest.forM _) = _
    rw [ih]
    by_cases skipped : skips a = true
    · rw [if_pos skipped, List.filter_cons_of_neg (by simp [skipped])]
      exact ok_bind () _
    · rw [if_neg skipped, List.filter_cons_of_pos (by simpa using skipped)]
      rfl

end Written

end Trackplan.CommandLine
