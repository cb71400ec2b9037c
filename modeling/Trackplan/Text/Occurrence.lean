/-! Finding one list within another. -/
namespace Trackplan.Text

variable {α : Type} [DecidableEq α]

def startsWith (hay needle : List α) : Bool := needle.isPrefixOf hay

/-- The needle stands somewhere in the hay, all in one piece. -/
def occursIn (needle : List α) : List α → Bool
  | [] => needle.isEmpty
  | a :: hay => needle.isPrefixOf (a :: hay) || occursIn needle hay

theorem occursIn_iff (needle hay : List α) :
    occursIn needle hay = true ↔ ∃ before after, hay = before ++ needle ++ after := by
  induction hay with
  | nil =>
    simp only [occursIn, List.isEmpty_iff]
    constructor
    · rintro rfl; exact ⟨[], [], rfl⟩
    · rintro ⟨before, after, h⟩
      simp only [List.append_assoc, List.nil_eq, List.append_eq_nil_iff] at h
      exact h.2.1
  | cons a hay ih =>
    simp only [occursIn, Bool.or_eq_true, List.isPrefixOf_iff_prefix, ih]
    constructor
    · rintro (⟨after, h⟩ | ⟨before, after, rfl⟩)
      · exact ⟨[], after, by simp [h]⟩
      · exact ⟨a :: before, after, by simp⟩
    · rintro ⟨before, after, h⟩
      cases before with
      | nil => exact .inl ⟨after, by simpa using h.symm⟩
      | cons b before =>
        simp only [List.cons_append, List.cons.injEq] at h
        exact .inr ⟨before, after, h.2⟩

theorem occursIn_iff_isInfix {needle hay : List α} :
    occursIn needle hay = true ↔ needle <:+: hay := by
  rw [occursIn_iff]
  constructor
  · rintro ⟨before, after, rfl⟩; exact ⟨before, after, rfl⟩
  · rintro ⟨before, after, rfl⟩; exact ⟨before, after, rfl⟩

end Trackplan.Text
