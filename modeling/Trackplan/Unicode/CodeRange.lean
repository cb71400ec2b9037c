/-! Sets of characters given by sorted ranges of code points. -/
namespace Trackplan.Unicode

structure CodeRange where
  first : Nat
  last : Nat

/-- A set with its names in lower case, free of blanks, hyphens and low lines. -/
structure NamedRanges where
  names : List String
  ranges : List CodeRange

/-- The ranges are sorted, so the search ends at the first one beyond the code point. -/
def covers : List CodeRange → Nat → Bool
  | [], _ => false
  | r :: rest, code =>
    if code < r.first then false else code ≤ r.last || covers rest code

theorem exists_range_of_covers {rs : List CodeRange} {code : Nat} (h : covers rs code = true) :
    ∃ r ∈ rs, r.first ≤ code ∧ code ≤ r.last := by
  induction rs with
  | nil => simp [covers] at h
  | cons r rest ih =>
    by_cases below : code < r.first
    · simp [covers, below] at h
    · rcases Nat.lt_or_ge r.last code with beyond | inside
      · have tail : covers rest code = true := by
          simpa [covers, below, Nat.not_le.2 beyond] using h
        obtain ⟨s, mem, bounds⟩ := ih tail
        exact ⟨s, by simp [mem], bounds⟩
      · exact ⟨r, by simp, Nat.le_of_not_lt below, inside⟩

end Trackplan.Unicode
