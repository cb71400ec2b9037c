import Trackplan.Proofs.History

/-! Strokes are drawn whole or not at all, with one exception. What a stroke looks at first settles
whether all of its marks lie on the grid, but of a frame it is the far corner that is looked at, and
that corner may have come back to the grid by wrapping. Such a frame is torn: it fails at its near
corner at the latest, and marks two of its sides before. -/
namespace Trackplan

namespace Stroke

variable {s : Stroke} {width height x y w h : Nat}

/-- The far corner of the frame lies on the grid and the near one does not, while the two sides that
are marked first do. -/
def Torn (width height : Nat) : Stroke → Prop
  | .frame x y w h =>
    ¬ isThin w h = true ∧ lastOf x w < width ∧ lastOf y h < height ∧
      (nextOf x < lastOf x w ∧ width ≤ x ∧ y < height ∨
        lastOf x w ≤ nextOf x ∧ nextOf y < lastOf y h ∧ x < width ∧ height ≤ y)
  | .put .. | .write .. | .across .. | .upright .. => False

instance (s : Stroke) (width height : Nat) : Decidable (s.Torn width height) :=
  match s with
  | .frame .. => inferInstanceAs (Decidable (_ ∧ _))
  | .put .. | .write .. | .across .. | .upright .. => isFalse id

/-- The sides that a torn frame marks. -/
def tornSides (x y w h : Nat) : List Mark :=
  if nextOf x < lastOf x w then levelSides (nextOf x) (lastOf x w) y (lastOf y h)
  else uprightSides (nextOf y) (lastOf y h) x (lastOf x w)

/-- The first mark of the left side, or of the corners where that side has no cells. -/
theorem exists_first_upright (row bottom x y right : Nat) : ∃ c rest,
    uprightSides row bottom x right ++ corners x y right bottom =
      ⟨x, if row < bottom then row else y, c⟩ :: rest := by
  by_cases rows : row < bottom
  · obtain ⟨count, some⟩ : ∃ count, bottom - row = count + 1 := ⟨bottom - row - 1, by omega⟩
    rw [uprightSides, some, List.range'_succ, if_pos rows]
    exact ⟨_, _, rfl⟩
  · rw [uprightSides, Nat.sub_eq_zero_of_le (Nat.le_of_not_lt rows), if_neg rows]
    exact ⟨_, _, rfl⟩

theorem exists_first_level {column right : Nat} (columns : column < right) (bottom : Nat)
    (others : List Mark) : ∃ c rest,
      levelSides column right y bottom ++ others = ⟨column, y, c⟩ :: rest := by
  obtain ⟨count, some⟩ : ∃ count, right - column = count + 1 := ⟨right - column - 1, by omega⟩
  rw [levelSides, some, List.range'_succ]
  exact ⟨_, _, rfl⟩

theorem levelSides_eq_nil {column right bottom : Nat} (none : right ≤ column) :
    levelSides column right y bottom = [] := by
  rw [levelSides, Nat.sub_eq_zero_of_le none]
  rfl

theorem takeWhile_of_outside {m : Mark} (outside : ¬ m.Inside width height) (rest : List Mark) :
    (m :: rest).takeWhile (·.Inside width height) = [] :=
  List.takeWhile_cons_of_neg (by simpa using outside)

theorem takeWhile_levelSides {column right bottom : Nat} (columns : right ≤ width)
    (top : y < height) (rows : bottom < height) (rest : List Mark) :
    (levelSides column right y bottom ++ rest).takeWhile (·.Inside width height) =
      levelSides column right y bottom ++ rest.takeWhile (·.Inside width height) := by
  refine List.takeWhile_append_of_pos fun m marked => ?_
  rw [mem_levelSides] at marked
  exact decide_eq_true ⟨by omega, by omega⟩

theorem takeWhile_uprightSides {row right bottom : Nat} (left : x < width)
    (columns : right < width) (rows : bottom ≤ height) (rest : List Mark) :
    (uprightSides row bottom x right ++ rest).takeWhile (·.Inside width height) =
      uprightSides row bottom x right ++ rest.takeWhile (·.Inside width height) := by
  refine List.takeWhile_append_of_pos fun m marked => ?_
  rw [mem_uprightSides] at marked
  exact decide_eq_true ⟨by omega, by omega⟩

/-- A frame that starts outside the grid marks the sides that come first, if they lie inside. -/
theorem made_frame (thick : ¬ isThin w h = true) (right : lastOf x w < width)
    (bottom : lastOf y h < height) (near : ¬ (x < width ∧ y < height)) :
    (frame x y w h).made width height =
      if (frame x y w h).Torn width height then tornSides x y w h else [] := by
  have probed : ∀ p ∈ (frame x y w h).probes width, p.1 < width ∧ p.2 < height := by
    simp only [probes, if_neg thick, List.forall_mem_singleton]
    exact ⟨right, bottom⟩
  rw [made, if_pos probed, marks, if_neg thick, frameMarks, List.append_assoc, tornSides]
  obtain ⟨c, upright, first⟩ :=
    exists_first_upright (nextOf y) (lastOf y h) x y (lastOf x w)
  by_cases columns : nextOf x < lastOf x w
  · by_cases top : y < height
    -- the level sides lie inside, and what follows starts in the first column
    · have torn : (frame x y w h).Torn width height :=
        ⟨thick, right, bottom, .inl ⟨columns, by omega, top⟩⟩
      rw [if_pos torn, if_pos columns, takeWhile_levelSides right.le top bottom, first,
        takeWhile_of_outside (fun inside => near ⟨inside.1, top⟩), List.append_nil]
    · obtain ⟨d, others, level⟩ := exists_first_level (y := y) columns (lastOf y h)
        (uprightSides (nextOf y) (lastOf y h) x (lastOf x w) ++
          corners x y (lastOf x w) (lastOf y h))
      rw [level, takeWhile_of_outside (fun inside => top inside.2), if_neg]
      rintro ⟨-, -, -, ⟨-, -, inside⟩ | ⟨empty, -⟩⟩
      · exact top inside
      · omega
  · rw [levelSides_eq_nil (Nat.le_of_not_lt columns), List.nil_append]
    by_cases rows : nextOf y < lastOf y h ∧ x < width
    -- the upright sides lie inside, and the near corner follows
    · have torn : (frame x y w h).Torn width height :=
        ⟨thick, right, bottom, .inr ⟨Nat.le_of_not_lt columns, rows.1, rows.2, by omega⟩⟩
      rw [if_pos torn, if_neg columns, takeWhile_uprightSides rows.2 right bottom.le, corners,
        takeWhile_of_outside (m := ⟨x, y, '┌'⟩) near, List.append_nil]
    · rw [first, takeWhile_of_outside, if_neg]
      · rintro ⟨-, -, -, ⟨some, -⟩ | ⟨-, some, inside, -⟩⟩
        · exact columns some
        · exact rows ⟨some, inside⟩
      · rintro ⟨left, top⟩
        split at top
        · exact rows ⟨‹_›, left⟩
        · exact near ⟨left, top⟩

/-- A stroke that does not fit and is not torn marks nothing. -/
theorem made_of_untorn (misfit : ¬ s.Fits width height) (whole : ¬ s.Torn width height) :
    s.made width height = [] := by
  by_cases probed : ∀ p ∈ s.probes width, p.1 < width ∧ p.2 < height
  · by_contra some
    refine misfit (fits_of_probed probed fun x y w h framed thick => ?_)
    subst framed
    by_contra near
    simp only [probes, if_neg thick, List.forall_mem_singleton] at probed
    rw [made_frame thick probed.1 probed.2 near, if_neg whole] at some
    exact some rfl
  · rw [made, if_neg probed]

theorem not_fits_of_torn (torn : s.Torn width height) : ¬ s.Fits width height := by
  cases s with
  | frame x y w h =>
    obtain ⟨-, -, -, ⟨-, left, -⟩ | ⟨-, -, -, top⟩⟩ := torn
    · exact fun fits => Nat.not_lt.mpr left fits.1.1
    · exact fun fits => Nat.not_lt.mpr top fits.2.1
  | _ => cases torn

theorem made_of_torn (torn : (frame x y w h).Torn width height) :
    (frame x y w h).made width height = tornSides x y w h := by
  have near : ¬ (x < width ∧ y < height) := fun near =>
    not_fits_of_torn torn ⟨⟨near.1, torn.2.1⟩, near.2, .inr torn.2.2.1⟩
  rw [made_frame torn.1 torn.2.1 torn.2.2.1 near, if_pos torn]

/-- Both sides that a torn frame marks have a cell at least. -/
theorem exists_mark_of_torn (torn : s.Torn width height) : ∃ m ∈ s.made width height,
    ∃ side, m.Reaches side := by
  cases s with
  | frame x y w h =>
    rw [made_of_torn torn, tornSides]
    obtain ⟨-, -, -, ⟨columns, -⟩ | ⟨none, rows, -⟩⟩ := torn
    · rw [if_pos columns]
      exact ⟨⟨nextOf x, y, '─'⟩, mem_levelSides.mpr ⟨Nat.le_refl _, columns, .inl rfl, rfl⟩,
        .left, _, rfl, rfl⟩
    · rw [if_neg (Nat.not_lt.mpr none)]
      exact ⟨⟨x, nextOf y, '│'⟩, mem_uprightSides.mpr ⟨Nat.le_refl _, rows, .inl rfl, rfl⟩,
        .up, _, rfl, rfl⟩
  | _ => cases torn

theorem not_isText_of_torn (torn : s.Torn width height) {m : Mark}
    (marked : m ∈ s.made width height) : ¬ m.IsText := by
  cases s with
  | frame x y w h =>
    rw [made_of_torn torn, tornSides] at marked
    split at marked
    · rw [Mark.IsText, (mem_levelSides.mp marked).2.2.2]; decide
    · rw [Mark.IsText, (mem_uprightSides.mp marked).2.2.2]; decide
  | _ => cases torn

/-- A frame that is torn has a far corner that wraps. -/
theorem wraps_of_torn (torn : (frame x y w h).Torn width height) :
    Grid.areaLimit < x + w ∨ Grid.areaLimit < y + h := by
  by_contra counted
  have thick := not_isThin_iff.mp torn.1
  have right : lastOf x w = x + (w - 1) := lastOf_of_lt (by omega)
  have bottom : lastOf y h = y + (h - 1) := lastOf_of_lt (by omega)
  obtain ⟨-, inColumns, inRows, ⟨-, left, -⟩ | ⟨-, -, -, top⟩⟩ := torn <;> omega

end Stroke

namespace Grid

variable {g g' : Grid} {s : Stroke}

/-- Grids with equal cells are equal. -/
theorem ext_cell (width : g.width = g'.width) (height : g.height = g'.height)
    (cells : ∀ x y, g.cell x y = g'.cell x y) : g = g' := by
  obtain ⟨w, h, as, size⟩ := g
  obtain ⟨w', h', bs, size'⟩ := g'
  obtain rfl : w = w' := width
  obtain rfl : h = h' := height
  suffices as = bs by subst this; rfl
  refine Array.ext (size.trans size'.symm) fun i below below' => ?_
  have wide : 0 < w := Nat.pos_of_ne_zero fun none => by
    rw [size, none, Nat.mul_zero] at below
    exact Nat.not_lt_zero i below
  have here := cells (i % w) (i / w)
  simp only [cell, Nat.mod_lt i wide, if_true, Nat.div_add_mod', Array.getD, below, below',
    dif_pos] at here
  exact here

theorem Marked.eq_of_nil (marked : Marked g g' []) : g' = g :=
  ext_cell marked.width marked.height marked.cell

theorem draw_of_untorn (failed : (g.draw s).2 ≠ none) (whole : ¬ s.Torn g.width g.height) :
    (g.draw s).1 = g := by
  have marked := g.marked_draw s
  rw [Stroke.made_of_untorn (fun fits => failed (draw_fault_eq_none.mpr fits)) whole] at marked
  exact marked.eq_of_nil

/-- Where there are no lines yet, those of a torn frame are seen. -/
theorem draw_of_torn (torn : s.Torn g.width g.height) (blank : ∀ x y, g.edges x y = .none) :
    (g.draw s).1 ≠ g := by
  obtain ⟨m, marked, side, reaches⟩ := Stroke.exists_mark_of_torn torn
  intro same
  have reach : ((g.draw s).1.cell m.x m.y).edges.reach side = true := by
    rw [(g.marked_draw s).cell]
    exact Cell.reach_of_mark (fun n mem _ => Stroke.not_isText_of_torn torn mem) marked ⟨rfl, rfl⟩
      reaches
  rw [same, ← edges, blank] at reach
  cases side <;> cases reach

/-- Strokes are drawn to their last mark or leave the grid as it was, unless they are torn, and a
fault names a cell that the grid does not have. -/
structure AllOrNothing (g : Grid) : Prop where
  whole : ∀ s, (g.draw s).2 = none → Marked g (g.draw s).1 (s.marks g.width)
  nothing : ∀ s, ¬ s.Torn g.width g.height → (g.draw s).2 ≠ none → (g.draw s).1 = g
  torn : ∀ s, s.Torn g.width g.height → (g.draw s).2 ≠ none ∧
    ((∀ x y, g.edges x y = .none) → (g.draw s).1 ≠ g)
  wraps : ∀ x y w h, (Stroke.frame x y w h).Torn g.width g.height →
    areaLimit < x + w ∨ areaLimit < y + h
  outside : ∀ s fault, (g.draw s).2 = some fault → g.Outside fault
  put : ∀ x y c, (g.draw (.put x y c)).2 ≠ none ↔ ¬ g.area.Has x y
  write : ∀ x y text, (g.draw (.write x y text)).2 ≠ none ↔ g.width = 0 ∨ g.height ≤ y
  across : ∀ x₀ x₁ y, (g.draw (.across x₀ x₁ y)).2 ≠ none ↔
    ¬ g.area.Has x₀ y ∨ ¬ g.area.Has x₁ y
  upright : ∀ x y₀ y₁, (g.draw (.upright x y₀ y₁)).2 ≠ none ↔
    ¬ g.area.Has x y₀ ∨ ¬ g.area.Has x y₁

end Grid

end Trackplan
