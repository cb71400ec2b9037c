import Trackplan.Proofs.Traces

/-! Frames by their size. A frame whose far corner can be counted is drawn where its rectangle fits,
over the border of the rectangle and nothing else. Columns are the exception: they are drawn as if they
were a single cell. -/
namespace Trackplan

namespace Area

/-- The cells of the first and last column and of the first and last row. -/
def Border (a : Area) (x y : Nat) : Prop :=
  a.Has x y ∧ (x = a.left ∨ x + 1 = a.right ∨ y = a.top ∨ y + 1 = a.bottom)

instance (a : Area) (x y : Nat) : Decidable (a.Border x y) :=
  inferInstanceAs (Decidable ((_ ∧ _ ∧ _ ∧ _) ∧ (_ ∨ _ ∨ _ ∨ _)))

end Area

namespace Stroke

/-- On every grid the frame is drawn if its rectangle lies on the grid, and not at all otherwise.
Each cell of the border gains some side, and no other cell changes. -/
structure FramedExactly (x y width height : Nat) : Prop where
  drawn : ∀ g : Grid, (g.draw (.frame x y width height)).2 = none ↔
    x + width ≤ g.width ∧ y + height ≤ g.height
  border : ∀ column row, (⟨x, x + width, y, y + height⟩ : Area).Border column row →
    ∃ gained : Edges, gained ≠ .none ∧ ∀ g : Grid, (g.draw (.frame x y width height)).2 = none →
      (g.draw (.frame x y width height)).1.edges column row = (g.edges column row).union gained
  rest : ∀ column row, ¬ (⟨x, x + width, y, y + height⟩ : Area).Border column row →
    ∀ g : Grid, (g.draw (.frame x y width height)).1.cell column row = g.cell column row
  nothing : ∀ g : Grid, (g.draw (.frame x y width height)).2 ≠ none →
    (g.draw (.frame x y width height)).1 = g

variable {x y width height column row : Nat}

/-- The frame writes nothing but lines. -/
theorem exists_edges_frameChar? {left top right bottom : Nat} {c : Char}
    (written : frameChar? left top right bottom column row = some c) :
    ∃ e, Edges.ofChar? c = some e ∧ e ≠ .none := by
  unfold frameChar? at written
  repeat' split at written
  all_goals cases written
  all_goals exact ⟨_, rfl, by decide⟩

theorem exists_edges_of_frame {columns : Nat} {c : Char}
    (written : (frame x y width height).wholeChar? columns column row = some c) :
    ∃ e, Edges.ofChar? c = some e ∧ e ≠ .none := by
  simp only [wholeChar?] at written
  split at written
  · cases (Option.ite_none_right_eq_some.mp written).2
    exact ⟨_, rfl, by decide⟩
  · exact exists_edges_frameChar? written

theorem isSome_frameChar? {left top right bottom : Nat} :
    (frameChar? left top right bottom column row).isSome = true ↔
      (nextOf left ≤ column ∧ column < right ∧ (row = top ∨ row = bottom)) ∨
      (nextOf top ≤ row ∧ row < bottom ∧ (column = left ∨ column = right)) ∨
      (column = left ∨ column = right) ∧ (row = top ∨ row = bottom) := by
  unfold frameChar?
  split
  · exact iff_of_true rfl (.inl ‹_›)
  · rename_i level
    split
    · exact iff_of_true rfl (.inr (.inl ‹_›))
    · rename_i upright
      rw [or_iff_right level, or_iff_right upright]
      split
      · rename_i corner
        refine iff_of_true ?_ corner
        split <;> split <;> rfl
      · exact iff_of_false Bool.false_ne_true ‹_›

section

variable (columns : x + width ≤ Grid.areaLimit) (rows : y + height ≤ Grid.areaLimit)
include columns rows

theorem sized_frame : (frame x y width height).Sized :=
  ⟨Nat.le_trans (Nat.le_add_left ..) columns, Nat.le_trans (Nat.le_add_left ..) rows⟩

theorem untorn_frame {gridWidth gridHeight : Nat} :
    ¬ (frame x y width height).Torn gridWidth gridHeight := fun torn =>
  (wraps_of_torn torn).elim (Nat.not_lt.mpr columns) (Nat.not_lt.mpr rows)

/-- Unless it is a column, the frame reaches its border and no other cell. -/
theorem isSome_wholeChar?_frame (wide : 0 < width) (high : 0 < height)
    (shape : ¬ (width = 1 ∧ 2 ≤ height)) (gridWidth : Nat) :
    ((frame x y width height).wholeChar? gridWidth column row).isSome = true ↔
      (⟨x, x + width, y, y + height⟩ : Area).Border column row := by
  have right : lastOf x width = x + (width - 1) := lastOf_of_lt (by omega)
  have bottom : lastOf y height = y + (height - 1) := lastOf_of_lt (by omega)
  by_cases thin : isThin width height = true
  · simp only [wholeChar?, if_pos thin, Option.isSome_ite, right]
    rw [isThin_iff] at thin
    simp only [Area.Border, Area.Has]; omega
  · simp only [wholeChar?, if_neg thin, right, bottom]
    rw [not_isThin_iff] at thin
    have nextColumn : nextOf x = x + 1 :=
      nextOf_of_lt (by omega : x < x + (width - 1)) (by omega)
    have nextRow : nextOf y = y + 1 := nextOf_of_lt (by omega : y < y + (height - 1)) (by omega)
    rw [isSome_frameChar?, nextColumn, nextRow]
    simp only [Area.Border, Area.Has]; omega

theorem fits_frame (wide : 0 < width) (high : 0 < height) (shape : ¬ (width = 1 ∧ 2 ≤ height))
    {gridWidth gridHeight : Nat} : (frame x y width height).Fits gridWidth gridHeight ↔
      x + width ≤ gridWidth ∧ y + height ≤ gridHeight := by
  have right : lastOf x width = x + (width - 1) := lastOf_of_lt (by omega)
  have bottom : lastOf y height = y + (height - 1) := lastOf_of_lt (by omega)
  simp only [Fits, right, bottom, isThin_iff]
  omega

theorem framedExactly (wide : 0 < width) (high : 0 < height)
    (shape : ¬ (width = 1 ∧ 2 ≤ height)) : FramedExactly x y width height where
  drawn g := by rw [Grid.draw_fault_eq_none, fits_frame columns rows wide high shape]
  border column row border := by
    obtain ⟨c, written⟩ := Option.isSome_iff_exists.mp
      ((isSome_wholeChar?_frame columns rows wide high shape 0).mpr border)
    obtain ⟨e, line, some⟩ := exists_edges_of_frame written
    refine ⟨e, some, fun g drawn => ?_⟩
    have here : (frame x y width height).charAt? g.width g.height column row = _ :=
      (if_pos (Grid.draw_fault_eq_none.mp drawn)).trans written
    rw [Grid.edges, g.cell_draw (sized_frame columns rows), here, Option.elim_some,
      Cell.edges_marked_of_line line, Grid.edges]
  rest column row beside g := by
    have unwritten : (frame x y width height).wholeChar? g.width column row = none := by
      rw [← Option.not_isSome_iff_eq_none, isSome_wholeChar?_frame columns rows wide high shape]
      exact beside
    rw [g.cell_draw (sized_frame columns rows), charAt?, unwritten,
      if_neg (untorn_frame columns rows), ite_self]
    rfl
  nothing g failed := Grid.draw_of_untorn failed (untorn_frame columns rows)

end

/-- A column is drawn as a level line in its top cell, and its height plays no part. -/
theorem draw_column (g : Grid) (x y height : Nat) (counted : x < Grid.areaLimit) :
    g.draw (frame x y 1 height) = g.draw (put x y '─') := by
  have last : lastOf x 1 = x := lastOf_of_lt counted
  have marks : acrossMarks x x y = [⟨x, y, '─'⟩] := by simp [acrossMarks, span]
  have probes : acrossProbes x x y = [(x, y), (x, y)] := by simp [acrossProbes]
  have thin : isThin 1 height = true := rfl
  simp only [Grid.draw, Stroke.probes, Stroke.marks, if_pos thin, last, probes, marks,
    List.findSome?_cons, List.findSome?_nil]
  cases g.fault? x y <;> rfl

/-- The grid that ends at the top cell of a column. -/
theorem not_framedExactly_column {x : Nat} (counted : x < Grid.areaLimit) (y : Nat) {height : Nat}
    (high : 2 ≤ height) : ¬ FramedExactly x y 1 height := by
  intro framed
  let g : Grid := ⟨x + 1, y + 1, .replicate ((y + 1) * (x + 1)) ⟨' ', .none⟩, by simp⟩
  have drawn : (g.draw (frame x y 1 height)).2 = none := by
    rw [draw_column g x y height counted, Grid.draw_fault_eq_none]
    exact ⟨Nat.lt_succ_self x, Nat.lt_succ_self y⟩
  have room : y + height ≤ y + 1 := ((framed.drawn g).mp drawn).2
  omega

/-- A frame of at least one cell whose far corner can be counted is drawn exactly where it fits,
unless it is a column of two or more cells; of that only the top cell is looked at and drawn. -/
theorem framedExactly_iff (x y : Nat) (wide : 0 < width) (high : 0 < height)
    (columns : x + width ≤ Grid.areaLimit) (rows : y + height ≤ Grid.areaLimit) :
    (FramedExactly x y width height ↔ ¬ (width = 1 ∧ 2 ≤ height)) ∧
    (width = 1 → ∀ g : Grid, g.draw (frame x y width height) = g.draw (put x y '─')) := by
  refine ⟨⟨?_, framedExactly columns rows wide high⟩, ?_⟩
  · rintro framed ⟨rfl, tall⟩
    exact not_framedExactly_column columns y tall framed
  · rintro rfl g
    exact draw_column g x y height columns

theorem framedExactly_iff_box : 0 < 3 ∧ 0 < 2 ∧ 1 + 3 ≤ Grid.areaLimit ∧ 1 + 2 ≤ Grid.areaLimit ∧
    FramedExactly 1 1 3 2 ∧ ¬ FramedExactly 1 1 1 2 :=
  ⟨by decide, by decide, by decide, by decide,
    (framedExactly_iff 1 1 (by decide : 0 < 3) (by decide : 0 < 2) (by decide) (by decide)).1.mpr
      (by decide),
    fun framed => (framedExactly_iff 1 1 (by decide) (by decide) (by decide) (by decide)).1.mp framed
      (by decide)⟩

/-- A column of two cells is drawn on a grid of one. -/
theorem column_drawn_off_grid : ∃ g g' : Grid, Grid.blank 1 1 ' ' = .ok g ∧
    g.draw (frame 0 0 1 2) = (g', none) ∧ ¬ 0 + 2 ≤ g.height ∧ g'.get 0 0 = .ok '─' ∧
    ¬ FramedExactly 0 0 1 2 :=
  ⟨_, _, rfl, rfl, by decide, rfl, not_framedExactly_column (by decide) 0 (by decide)⟩

end Stroke

end Trackplan
