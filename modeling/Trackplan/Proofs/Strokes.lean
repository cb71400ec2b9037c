import Trackplan.Grid.Stroke
import Trackplan.Proofs.Area

/-! Single strokes: which marks they make, on which grids they can be drawn, and that a stroke whose
ends lie in an area looks at and marks cells of that area only. Sums that wrap are met by frames
alone, and not by frames whose far corner can be counted. -/
namespace Trackplan.Stroke

variable {m : Mark} {x y columns : Nat}

/-- The outline of a rectangle from its first to its last column and row. -/
def borderMarks (x y right bottom : Nat) : List Mark :=
  levelSides (x + 1) right y bottom ++ uprightSides (y + 1) bottom x right ++
    corners x y right bottom

/-- The marks of a stroke where no sum wraps. -/
def plainMarks (columns : Nat) (s : Stroke) : List Mark :=
  match s with
  | .frame x y width height =>
    if isThin width height then acrossMarks x (x + (width - 1)) y
    else borderMarks x y (x + width - 1) (y + height - 1)
  | .put .. | .write .. | .across .. | .upright .. => s.marks columns

theorem mem_span {a b n : Nat} : n ∈ span a b ↔ min a b ≤ n ∧ n ≤ max a b := by
  simp only [span, List.mem_range'_1]; omega

theorem mem_acrossMarks {x₀ x₁ : Nat} :
    m ∈ acrossMarks x₀ x₁ y ↔ min x₀ x₁ ≤ m.x ∧ m.x ≤ max x₀ x₁ ∧ m.y = y ∧ m.c = '─' := by
  obtain ⟨_, _, _⟩ := m
  simp only [acrossMarks, List.mem_map, mem_span, Mark.mk.injEq]
  constructor
  · rintro ⟨_, ⟨low, high⟩, rfl, rfl, rfl⟩
    exact ⟨low, high, rfl, rfl⟩
  · rintro ⟨low, high, rfl, rfl⟩
    exact ⟨_, ⟨low, high⟩, rfl, rfl, rfl⟩

theorem mem_uprightMarks {y₀ y₁ : Nat} :
    m ∈ uprightMarks x y₀ y₁ ↔ m.x = x ∧ min y₀ y₁ ≤ m.y ∧ m.y ≤ max y₀ y₁ ∧ m.c = '│' := by
  obtain ⟨_, _, _⟩ := m
  simp only [uprightMarks, List.mem_map, mem_span, Mark.mk.injEq]
  constructor
  · rintro ⟨_, ⟨low, high⟩, rfl, rfl, rfl⟩
    exact ⟨rfl, low, high, rfl⟩
  · rintro ⟨rfl, low, high, rfl⟩
    exact ⟨_, ⟨low, high⟩, rfl, rfl, rfl⟩

theorem across_marks {x₀ x₁ : Nat} (low : x₀ ≤ x) (high : x ≤ x₁) :
    ⟨x, y, '─'⟩ ∈ (Stroke.across x₀ x₁ y).plainMarks columns :=
  mem_acrossMarks.mpr ⟨Nat.le_trans (Nat.min_le_left ..) low,
    Nat.le_trans high (Nat.le_max_right ..), rfl, rfl⟩

theorem upright_marks {y₀ y₁ : Nat} (low : y₀ ≤ y) (high : y ≤ y₁) :
    ⟨x, y, '│'⟩ ∈ (Stroke.upright x y₀ y₁).plainMarks columns :=
  mem_uprightMarks.mpr ⟨rfl, Nat.le_trans (Nat.min_le_left ..) low,
    Nat.le_trans high (Nat.le_max_right ..), rfl⟩

/-- Character by character, as far as there are columns. -/
theorem mem_writeMarks {text : List Char} :
    m ∈ writeMarks columns x y text ↔
      m.y = y ∧ x ≤ m.x ∧ m.x < columns ∧ text[m.x - x]? = some m.c := by
  obtain ⟨column, row, c⟩ := m
  simp only [writeMarks, List.mem_map, Prod.exists, List.mem_zipIdx_iff_le_and_getElem?_sub,
    Mark.mk.injEq]
  constructor
  · rintro ⟨_, _, ⟨after, found⟩, rfl, rfl, rfl⟩
    rw [List.getElem?_take] at found
    split at found
    · exact ⟨rfl, after, by omega, found⟩
    · cases found
  · rintro ⟨rfl, after, room, found⟩
    refine ⟨c, column, ⟨after, ?_⟩, rfl, rfl, rfl⟩
    rw [List.getElem?_take, if_pos (by omega), found]

theorem mem_levelSides {column right bottom : Nat} :
    m ∈ levelSides column right y bottom ↔
      column ≤ m.x ∧ m.x < right ∧ (m.y = y ∨ m.y = bottom) ∧ m.c = '─' := by
  obtain ⟨_, _, _⟩ := m
  simp only [levelSides, List.mem_flatMap, List.mem_range'_1, List.mem_cons, List.not_mem_nil,
    or_false, Mark.mk.injEq]
  constructor
  · rintro ⟨_, ⟨low, high⟩, ⟨rfl, rfl, rfl⟩ | ⟨rfl, rfl, rfl⟩⟩
    · exact ⟨low, by omega, .inl rfl, rfl⟩
    · exact ⟨low, by omega, .inr rfl, rfl⟩
  · rintro ⟨low, high, rfl | rfl, rfl⟩
    · exact ⟨_, ⟨low, by omega⟩, .inl ⟨rfl, rfl, rfl⟩⟩
    · exact ⟨_, ⟨low, by omega⟩, .inr ⟨rfl, rfl, rfl⟩⟩

theorem mem_uprightSides {row right bottom : Nat} :
    m ∈ uprightSides row bottom x right ↔
      row ≤ m.y ∧ m.y < bottom ∧ (m.x = x ∨ m.x = right) ∧ m.c = '│' := by
  obtain ⟨_, _, _⟩ := m
  simp only [uprightSides, List.mem_flatMap, List.mem_range'_1, List.mem_cons, List.not_mem_nil,
    or_false, Mark.mk.injEq]
  constructor
  · rintro ⟨_, ⟨low, high⟩, ⟨rfl, rfl, rfl⟩ | ⟨rfl, rfl, rfl⟩⟩
    · exact ⟨low, by omega, .inl rfl, rfl⟩
    · exact ⟨low, by omega, .inr rfl, rfl⟩
  · rintro ⟨low, high, rfl | rfl, rfl⟩
    · exact ⟨_, ⟨low, by omega⟩, .inl ⟨rfl, rfl, rfl⟩⟩
    · exact ⟨_, ⟨low, by omega⟩, .inr ⟨rfl, rfl, rfl⟩⟩

theorem mem_corners {right bottom : Nat} : m ∈ corners x y right bottom ↔
    m = ⟨x, y, '┌'⟩ ∨ m = ⟨right, y, '┐'⟩ ∨ m = ⟨x, bottom, '└'⟩ ∨ m = ⟨right, bottom, '┘'⟩ := by
  simp only [corners, List.mem_cons, List.not_mem_nil, or_false]

theorem mem_frameMarks {right bottom : Nat} :
    m ∈ frameMarks x y right bottom ↔
      (nextOf x ≤ m.x ∧ m.x < right ∧ (m.y = y ∨ m.y = bottom) ∧ m.c = '─') ∨
      (nextOf y ≤ m.y ∧ m.y < bottom ∧ (m.x = x ∨ m.x = right) ∧ m.c = '│') ∨
      m = ⟨x, y, '┌'⟩ ∨ m = ⟨right, y, '┐'⟩ ∨ m = ⟨x, bottom, '└'⟩ ∨ m = ⟨right, bottom, '┘'⟩ := by
  rw [frameMarks, List.mem_append, List.mem_append, mem_levelSides, mem_uprightSides, mem_corners,
    or_assoc]

theorem mem_borderMarks {right bottom : Nat} :
    m ∈ borderMarks x y right bottom ↔
      (x < m.x ∧ m.x < right ∧ (m.y = y ∨ m.y = bottom) ∧ m.c = '─') ∨
      (y < m.y ∧ m.y < bottom ∧ (m.x = x ∨ m.x = right) ∧ m.c = '│') ∨
      m = ⟨x, y, '┌'⟩ ∨ m = ⟨right, y, '┐'⟩ ∨ m = ⟨x, bottom, '└'⟩ ∨ m = ⟨right, bottom, '┘'⟩ := by
  rw [borderMarks, List.mem_append, List.mem_append, mem_levelSides, mem_uprightSides, mem_corners,
    or_assoc]
  rfl

theorem isThin_iff {w h : Nat} : isThin w h = true ↔ w < 2 ∨ h < 2 := by simp [isThin]

theorem not_isThin_iff {w h : Nat} : ¬ isThin w h = true ↔ 2 ≤ w ∧ 2 ≤ h := by
  rw [isThin_iff]; omega

theorem wrapped_of_lt {n : Nat} (counted : n < Grid.areaLimit) : wrapped n = n :=
  Nat.mod_eq_of_lt counted

theorem lastOf_le (first count : Nat) : lastOf first count ≤ first + (count - 1) := Nat.mod_le ..

theorem lastOf_of_lt {first count : Nat} (counted : first + (count - 1) < Grid.areaLimit) :
    lastOf first count = first + (count - 1) := wrapped_of_lt counted

theorem nextOf_of_lt {n last : Nat} (before : n < last) (counted : last < Grid.areaLimit) :
    nextOf n = n + 1 := wrapped_of_lt (Nat.lt_of_le_of_lt before counted)

/-- The stroke lies in the area from one end to the other; text is not cut off. -/
def Within (a : Area) : Stroke → Prop
  | .put x y _ => a.Has x y
  | .write x y text => a.Has x y ∧ x + text.length ≤ a.right
  | .across x₀ x₁ y => a.Has x₀ y ∧ a.Has x₁ y
  | .upright x y₀ y₁ => a.Has x y₀ ∧ a.Has x y₁
  | .frame x y width height => a.Has x y ∧ a.Has (x + width - 1) (y + height - 1)

theorem Within.mono {a b : Area} {s : Stroke} (inside : a.Inside b) (within : s.Within a) :
    s.Within b := by
  cases s with
  | put => exact Area.Has.mono inside within
  | write => exact ⟨within.1.mono inside, Nat.le_trans within.2 inside.2.1⟩
  | across | upright | frame => exact ⟨within.1.mono inside, within.2.mono inside⟩

theorem Within.has_mark {a : Area} {s : Stroke} (within : s.Within a)
    (marked : m ∈ s.plainMarks columns) : a.Has m.x m.y := by
  cases s with
  | put x y c =>
    simp only [plainMarks, marks, List.mem_singleton] at marked
    exact marked ▸ within
  | write x y text =>
    obtain ⟨row, after, -, found⟩ := mem_writeMarks.mp marked
    have short := (List.getElem?_eq_some_iff.mp found).1
    simp only [Within, Area.Has, ← String.length_toList] at *; omega
  | across x₀ x₁ y =>
    obtain ⟨low, high, row, -⟩ := mem_acrossMarks.mp marked
    simp only [Within, Area.Has] at *; omega
  | upright x y₀ y₁ =>
    obtain ⟨column, low, high, -⟩ := mem_uprightMarks.mp marked
    simp only [Within, Area.Has] at *; omega
  | frame x y width height =>
    simp only [Within, Area.Has] at within
    simp only [plainMarks] at marked
    split at marked
    · obtain ⟨low, high, row, -⟩ := mem_acrossMarks.mp marked
      simp only [Area.Has]; omega
    · simp only [mem_borderMarks] at marked
      rcases marked with ⟨_, _, row | row, -⟩ | ⟨_, _, column | column, -⟩ | rfl | rfl | rfl | rfl <;>
        simp only [Area.Has] <;> omega

/-- Within an area whose cells can be counted no sum wraps. -/
theorem Within.marks_eq {a : Area} {s : Stroke} (within : s.Within a)
    (right : a.right ≤ Grid.areaLimit) (bottom : a.bottom ≤ Grid.areaLimit) :
    s.marks columns = s.plainMarks columns := by
  cases s with
  | put | write | across | upright => rfl
  | frame x y width height =>
    simp only [Within, Area.Has] at within
    rw [marks, plainMarks, lastOf_of_lt (by omega), lastOf_of_lt (by omega)]
    by_cases thin : isThin width height = true
    · rw [if_pos thin, if_pos thin]
    · rw [if_neg thin, if_neg thin, frameMarks, borderMarks]
      rw [not_isThin_iff] at thin
      rw [nextOf_of_lt (by omega : x < x + (width - 1)) (by omega),
        nextOf_of_lt (by omega : y < y + (height - 1)) (by omega), Nat.add_sub_assoc (by omega),
        Nat.add_sub_assoc (by omega)]

/-- The stroke can be drawn on a grid of that size. Of text only the row matters, because what goes
beyond the last column is dropped. -/
def Fits (width height : Nat) : Stroke → Prop
  | .put x y _ => x < width ∧ y < height
  | .write _ y _ => 0 < width ∧ y < height
  | .across x₀ x₁ y => x₀ < width ∧ x₁ < width ∧ y < height
  | .upright x y₀ y₁ => x < width ∧ y₀ < height ∧ y₁ < height
  | .frame x y w h =>
    (x < width ∧ lastOf x w < width) ∧ y < height ∧ (isThin w h = true ∨ lastOf y h < height)

instance (s : Stroke) (width height : Nat) : Decidable (s.Fits width height) := by
  cases s <;> exact inferInstanceAs (Decidable (_ ∧ _))

variable {width height : Nat} {s : Stroke}

theorem Fits.has_probe (fits : s.Fits width height) {probe : Nat × Nat}
    (probed : probe ∈ s.probes width) : probe.1 < width ∧ probe.2 < height := by
  cases s with
  | put x y c => exact List.mem_singleton.mp probed ▸ fits
  | write x y text =>
    simp only [probes, List.mem_singleton] at probed
    simp only [Fits] at fits
    subst probed
    exact ⟨by simp only; omega, fits.2⟩
  | across | upright =>
    simp only [probes, acrossProbes, List.mem_cons, List.not_mem_nil, or_false] at probed
    simp only [Fits] at fits
    rcases probed with rfl | rfl <;> simp only <;> omega
  | frame x y w h =>
    obtain ⟨⟨left, right⟩, top, bottom⟩ := fits
    by_cases thin : isThin w h = true
    · simp only [probes, if_pos thin, acrossProbes, List.mem_cons, List.not_mem_nil,
        or_false] at probed
      rcases probed with rfl | rfl <;> simp only <;> omega
    · simp only [probes, if_neg thin, List.mem_singleton] at probed
      subst probed
      exact ⟨right, bottom.resolve_left thin⟩

/-- Where the ends of a stroke lie on the grid, all of its marks do. -/
theorem Fits.has_mark (fits : s.Fits width height) (marked : m ∈ s.marks width) :
    m.x < width ∧ m.y < height := by
  cases s with
  | put x y c => exact List.mem_singleton.mp marked ▸ fits
  | write x y text =>
    obtain ⟨row, -, before, -⟩ := mem_writeMarks.mp marked
    exact ⟨before, row ▸ fits.2⟩
  | across x₀ x₁ y =>
    obtain ⟨-, high, row, -⟩ := mem_acrossMarks.mp marked
    simp only [Fits] at fits; omega
  | upright x y₀ y₁ =>
    obtain ⟨column, -, high, -⟩ := mem_uprightMarks.mp marked
    simp only [Fits] at fits; omega
  | frame x y w h =>
    obtain ⟨⟨left, right⟩, top, bottom⟩ := fits
    by_cases thin : isThin w h = true
    · simp only [marks, if_pos thin, mem_acrossMarks] at marked
      omega
    · have bottom := bottom.resolve_left thin
      simp only [marks, if_neg thin, mem_frameMarks] at marked
      rcases marked with level | upright | rfl | rfl | rfl | rfl
      · omega
      · omega
      · exact ⟨left, top⟩
      · exact ⟨right, top⟩
      · exact ⟨left, bottom⟩
      · exact ⟨right, bottom⟩

/-- The cells that a stroke looks at first settle whether it fits, unless it is a frame of two rows
and columns at least. Of that they settle the far corner only. -/
theorem fits_of_probed (probed : ∀ p ∈ s.probes width, p.1 < width ∧ p.2 < height)
    (near : ∀ x y w h, s = .frame x y w h → ¬ isThin w h = true → x < width ∧ y < height) :
    s.Fits width height := by
  cases s with
  | put x y c => exact probed _ (List.mem_singleton_self _)
  | write x y text =>
    have last := probed _ (List.mem_singleton_self _)
    exact ⟨by omega, last.2⟩
  | across | upright =>
    simp only [probes, acrossProbes, List.mem_cons, List.not_mem_nil, or_false, forall_eq_or_imp,
      forall_eq] at probed
    simp only [Fits]; omega
  | frame x y w h =>
    by_cases thin : isThin w h = true
    · simp only [probes, if_pos thin, acrossProbes, List.mem_cons, List.not_mem_nil, or_false,
        forall_eq_or_imp, forall_eq] at probed
      exact ⟨by omega, by omega, .inl thin⟩
    · simp only [probes, if_neg thin, List.forall_mem_singleton] at probed
      obtain ⟨left, top⟩ := near x y w h rfl thin
      exact ⟨⟨left, probed.1⟩, top, .inr probed.2⟩

/-- What looks at and marks no cell outside the grid fits it. -/
theorem fits_of_inside (probed : ∀ p ∈ s.probes width, p.1 < width ∧ p.2 < height)
    (marked : ∀ m ∈ s.marks width, m.x < width ∧ m.y < height) : s.Fits width height := by
  refine fits_of_probed probed fun x y w h framed thick => ?_
  subst framed
  simp only [marks, if_neg thick] at marked
  exact marked ⟨x, y, '┌'⟩ (mem_frameMarks.mpr (.inr (.inr (.inl rfl))))

/-- A stroke within the grid fits it, for wrapping only makes a sum smaller. -/
theorem Within.fits (within : s.Within ⟨0, width, 0, height⟩) : s.Fits width height := by
  cases s with
  | frame x y w h =>
    have right := lastOf_le x w
    have bottom := lastOf_le y h
    simp only [Within, Area.Has] at within
    exact ⟨⟨by omega, by omega⟩, by omega, .inr (by omega)⟩
  | _ => simp only [Within, Area.Has, Fits] at *; omega

end Trackplan.Stroke
