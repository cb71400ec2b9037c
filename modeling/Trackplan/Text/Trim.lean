import Trackplan.Unicode.Property

/-! Removing characters from the ends of a text. -/
namespace Trackplan.Text

/-- Drops the longest run at the end whose elements all satisfy the test. -/
def dropTrailing {α : Type} (test : α → Bool) : List α → List α
  | [] => []
  | a :: rest =>
    match dropTrailing test rest with
    | [] => if test a then [] else [a]
    | kept => a :: kept

/-- A text without the white space around it. -/
def trimmed (text : List Char) : List Char :=
  dropTrailing Unicode.isWhiteSpace (text.dropWhile Unicode.isWhiteSpace)

def trim (text : String) : String := .ofList (trimmed text.toList)

variable {α : Type} {test : α → Bool}

@[simp] theorem dropTrailing_nil : dropTrailing test [] = [] := rfl

theorem dropTrailing_cons (a : α) (rest : List α) :
    dropTrailing test (a :: rest) =
      if dropTrailing test rest = [] ∧ test a = true then [] else a :: dropTrailing test rest := by
  cases h : dropTrailing test rest <;> simp [dropTrailing, h]

/-- What is kept and what is dropped make up the whole, and the dropped part satisfies the test. -/
theorem exists_dropped (test : α → Bool) (as : List α) :
    ∃ dropped, as = dropTrailing test as ++ dropped ∧ ∀ a ∈ dropped, test a = true := by
  induction as with
  | nil => exact ⟨[], by simp⟩
  | cons a rest ih =>
    obtain ⟨dropped, split, all⟩ := ih
    rw [dropTrailing_cons]
    by_cases h : dropTrailing test rest = [] ∧ test a = true
    · refine ⟨a :: rest, by simp [h], ?_⟩
      rw [h.1, List.nil_append] at split
      intro b mem
      rcases List.mem_cons.1 mem with rfl | mem
      · exact h.2
      · exact all b (split ▸ mem)
    · exact ⟨dropped, by simp only [if_neg h, List.cons_append, ← split], all⟩

theorem getLast_dropTrailing (as : List α) :
    ∀ h : dropTrailing test as ≠ [], test ((dropTrailing test as).getLast h) = false := by
  induction as with
  | nil => intro h; simp at h
  | cons a rest ih =>
    rw [dropTrailing_cons]
    split
    · intro h; exact absurd rfl h
    · rename_i h
      intro _
      by_cases empty : dropTrailing test rest = []
      · simpa [empty] using h
      · rw [List.getLast_cons empty]; exact ih empty

theorem getLast?_dropTrailing {as : List α} {a : α} (last : a ∈ (dropTrailing test as).getLast?) :
    test a = false := by
  cases kept : dropTrailing test as with
  | nil => rw [kept] at last; cases last
  | cons b rest =>
    have nonempty : dropTrailing test as ≠ [] := kept ▸ List.cons_ne_nil b rest
    rw [List.getLast?_eq_some_getLast nonempty] at last
    cases last
    exact getLast_dropTrailing as nonempty

theorem dropTrailing_prefix (test : α → Bool) (as : List α) : dropTrailing test as <+: as := by
  obtain ⟨dropped, split, -⟩ := exists_dropped test as
  exact ⟨dropped, split.symm⟩

/-- Nothing is dropped where the last element fails the test. -/
theorem dropTrailing_eq_self {as : List α} (last : ∀ a ∈ as.getLast?, test a = false) :
    dropTrailing test as = as := by
  obtain ⟨dropped, split, all⟩ := exists_dropped test as
  cases final : dropped.getLast? with
  | none => rw [List.getLast?_eq_none_iff.1 final, List.append_nil] at split; exact split.symm
  | some a =>
    have kept := last a (by rw [split, List.getLast?_append, final]; rfl)
    rw [all a (List.mem_of_getLast? final)] at kept
    cases kept

theorem dropTrailing_eq_nil {as : List α} :
    dropTrailing test as = [] ↔ ∀ a ∈ as, test a = true := by
  induction as with
  | nil => simp
  | cons a rest ih =>
    rw [dropTrailing_cons, ite_eq_left_iff]
    simp only [List.forall_mem_cons, ← ih, reduceCtorEq, imp_false, Decidable.not_not, and_comm]

/-- What satisfies the test at the end of a list makes no difference. -/
theorem dropTrailing_append {as bs : List α} (all : ∀ b ∈ bs, test b = true) :
    dropTrailing test (as ++ bs) = dropTrailing test as := by
  induction as with
  | nil => rw [List.nil_append, dropTrailing_nil, dropTrailing_eq_nil]; exact all
  | cons a rest ih => rw [List.cons_append, dropTrailing_cons, ih, dropTrailing_cons]

/-- A blank text is one of white space only. -/
theorem trimmed_eq_nil {text : List Char} :
    trimmed text = [] ↔ ∀ c ∈ text, Unicode.isWhiteSpace c = true := by
  rw [trimmed, dropTrailing_eq_nil]
  induction text with
  | nil => simp
  | cons c rest ih =>
    by_cases blank : Unicode.isWhiteSpace c = true
    · rw [List.dropWhile_cons_of_pos blank, ih]
      simp [blank]
    · rw [List.dropWhile_cons_of_neg blank]

/-- A text without white space is left alone. -/
theorem trimmed_eq_self {text : List Char} (solid : ∀ c ∈ text, Unicode.isWhiteSpace c = false) :
    trimmed text = text := by
  have start : text.dropWhile Unicode.isWhiteSpace = text := by
    cases text with
    | nil => rfl
    | cons c rest => exact List.dropWhile_cons_of_neg (by simp [solid c])
  rw [trimmed, start]
  exact dropTrailing_eq_self fun c last => solid c (List.mem_of_getLast? last)

@[simp] theorem toList_trim (text : String) : (trim text).toList = trimmed text.toList := by
  simp [trim]

end Trackplan.Text
