/-! Neighbours in a list: two entries, the second right after the first. They are written as an
infix of length two. -/
namespace Trackplan.Neighbours

variable {α β : Type} {a b c : α} {l : List α}

theorem cons_iff : [a, b] <:+: c :: l ↔ a = c ∧ l.head? = some b ∨ [a, b] <:+: l := by
  rw [List.infix_cons_iff, List.cons_prefix_cons]
  cases l with
  | nil => simp
  | cons d l => simp [eq_comm]

theorem exists_of_map {f : α → β} {p q : β} (next : [p, q] <:+: l.map f) :
    ∃ a b, [a, b] <:+: l ∧ f a = p ∧ f b = q := by
  obtain ⟨pair, inl, eq⟩ := List.infix_map_iff.mp next
  obtain ⟨a, tail, rfl, left, eq⟩ := List.map_eq_cons_iff.mp eq.symm
  obtain ⟨b, tail, rfl, right, eq⟩ := List.map_eq_cons_iff.mp eq
  obtain rfl := List.map_eq_nil_iff.mp eq
  exact ⟨a, b, inl, left, right⟩

theorem mem_left (next : [a, b] <:+: l) : a ∈ l := next.subset (by simp)

theorem mem_right (next : [a, b] <:+: l) : b ∈ l := next.subset (by simp)

/-- Every entry but the first has one before it. -/
theorem head_or_after (mem : b ∈ l) : l.head? = some b ∨ ∃ a, [a, b] <:+: l := by
  induction l with
  | nil => cases mem
  | cons c l ih =>
    rcases List.mem_cons.mp mem with rfl | mem
    · exact .inl rfl
    · rcases ih mem with head | ⟨a, next⟩
      · exact .inr ⟨c, cons_iff.mpr (.inl ⟨rfl, head⟩)⟩
      · exact .inr ⟨a, List.infix_cons next⟩

/-- Every entry but the last has one after it. -/
theorem last_or_before (mem : a ∈ l) : l.getLast? = some a ∨ ∃ b, [a, b] <:+: l := by
  obtain ⟨before, after, rfl⟩ := List.append_of_mem mem
  cases after with
  | nil => exact .inl (by simp)
  | cons b after => exact .inr ⟨b, before, after, by simp⟩

/-- In an ordered list an entry stands before both of two neighbours, is one of them, or stands
after both. -/
theorem before_or_after {R : α → α → Prop} (ordered : l.Pairwise R) (next : [a, b] <:+: l)
    (mem : c ∈ l) : R c a ∨ c = a ∨ c = b ∨ R b c := by
  obtain ⟨before, after, rfl⟩ := next
  rw [List.append_assoc, List.pairwise_append] at ordered
  obtain ⟨-, tail, across⟩ := ordered
  simp only [List.cons_append, List.nil_append, List.pairwise_cons] at tail
  rcases List.mem_append.mp mem with mem | mem
  · rcases List.mem_append.mp mem with mem | mem
    · exact .inl (across c mem a (by simp))
    · simp only [List.mem_cons, List.not_mem_nil, or_false] at mem
      rcases mem with rfl | rfl
      · exact .inr (.inl rfl)
      · exact .inr (.inr (.inl rfl))
  · exact .inr (.inr (.inr (tail.2.1 c mem)))

theorem either_before {R : α → α → Prop} (ordered : l.Pairwise R) (ha : a ∈ l) (hb : b ∈ l) :
    a = b ∨ R a b ∨ R b a := by
  induction l with
  | nil => cases ha
  | cons c l ih =>
    have later : ∀ d ∈ l, R c d := fun d mem => List.rel_of_pairwise_cons ordered mem
    rcases List.mem_cons.mp ha with rfl | ina <;> rcases List.mem_cons.mp hb with rfl | inb
    · exact .inl rfl
    · exact .inr (.inl (later b inb))
    · exact .inr (.inr (later a ina))
    · exact ih ordered.of_cons ina inb

theorem first_before {R : α → α → Prop} (ordered : l.Pairwise R) (mem : b ∈ l) :
    ∃ a ∈ l.head?, a = b ∨ R a b := by
  cases l with
  | nil => cases mem
  | cons a l =>
    refine ⟨a, rfl, ?_⟩
    rcases List.mem_cons.mp mem with rfl | mem
    · exact .inl rfl
    · exact .inr (List.rel_of_pairwise_cons ordered mem)

theorem last_after {R : α → α → Prop} (ordered : l.Pairwise R) (mem : a ∈ l) :
    ∃ b ∈ l.getLast?, a = b ∨ R a b := by
  have := first_before (R := fun b a => R a b) (List.pairwise_reverse.mpr ordered)
    (List.mem_reverse.mpr mem)
  simpa only [List.head?_reverse, eq_comm] using this

end Trackplan.Neighbours
