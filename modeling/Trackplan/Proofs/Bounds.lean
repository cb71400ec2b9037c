import Trackplan.Proofs.Composition
import Trackplan.Proofs.History

/-! A drawing keeps to its grid. Every stroke of a figure lies in the figure's rectangle, so the
strokes of a plan all succeed and the only thing that can go wrong is a grid of too many cells. -/
namespace Trackplan

namespace Placed

variable {p q : Placed} {s : Stroke}

theorem cols_pos (p : Placed) : p.x < p.endCol := by
  have := p.figure.width_pos
  simp only [endCol]; omega

theorem track_inside (p : Placed) : p.y ≤ p.trackRow ∧ p.trackRow < p.endRow := by
  have := p.figure.fall_pos
  simp only [trackRow, endRow, Figure.height]; omega

theorem has_track {x : Nat} (low : p.x ≤ x) (high : x < p.endCol) : p.area.Has x p.trackRow :=
  ⟨low, high, p.track_inside⟩

theorem part_bounds (part : q ∈ p.parts) :
    p.x ≤ q.x ∧ q.endCol ≤ p.endCol ∧ p.y ≤ q.y ∧ q.endRow ≤ p.endRow := part_inside part

theorem has_track_of_part {x : Nat} (part : q ∈ p.parts) (low : p.x ≤ x) (high : x < p.endCol) :
    p.area.Has x q.trackRow := by
  have := part_bounds part
  have := q.track_inside
  simp only [area, Area.Has]; omega

theorem free_of_rails (railed : p.figure.Railed) (part : q ∈ p.parts) :
    p.x + 3 ≤ q.x ∧ q.endCol + 3 ≤ p.endCol := (stack railed).free q part

theorem rails_inside (railed : p.figure.Railed) : p.x + 7 ≤ p.endCol := by
  obtain ⟨q, part⟩ := List.exists_mem_of_ne_nil _ (stack railed).nonempty
  have free := free_of_rails railed part
  have cols := q.cols_pos
  omega

theorem own_within (own : p.Own s) : s.Within p.area := by
  have cols := p.cols_pos
  have rows := p.track_inside
  cases own with
  | frame h =>
    have rise : 0 < p.figure.height := by have := p.figure.fall_pos; simp only [Figure.height]; omega
    refine ⟨⟨Nat.le_refl _, cols, Nat.le_refl _, ?_⟩, ?_, ?_, ?_, ?_⟩ <;>
      simp only [area, endCol, endRow] at * <;> omega
  | label h =>
    have width : p.figure.width = _ := congrArg Figure.width h
    simp only [Figure.width] at width
    exact ⟨has_track (by omega) (by simp only [endCol]; omega), by
      simp only [area, endCol]; omega⟩
  | caption h =>
    have width : p.figure.width = _ := congrArg Figure.width h
    simp only [Figure.width] at width
    have top : p.y < p.endRow := by omega
    refine ⟨⟨by simp only [area]; omega, ?_, Nat.le_refl _, top⟩, ?_⟩ <;>
      simp only [area, endCol] <;> omega
  | shelf h => exact ⟨has_track (by omega) cols, has_track (by omega) (by omega)⟩
  | track h => exact ⟨has_track (by omega) cols, has_track (by omega) (by omega)⟩
  | @between _ _ a b h next =>
    have left := part_bounds (Neighbours.mem_left next)
    have right := part_bounds (Neighbours.mem_right next)
    have := a.cols_pos
    have := b.cols_pos
    exact ⟨has_track (by omega) (by omega), has_track (by omega) (by omega)⟩
  | rail railed head last column =>
    have wide := rails_inside railed
    have first := List.mem_of_head? head
    have final := List.mem_of_getLast? last
    rcases column with rfl | rfl
    · exact ⟨has_track_of_part first (by omega) (by omega),
        has_track_of_part final (by omega) (by omega)⟩
    · exact ⟨has_track_of_part first (by omega) (by omega),
        has_track_of_part final (by omega) (by omega)⟩
  | @entry above main below h =>
    have wide := rails_inside (p := p) (h ▸ trivial)
    exact ⟨has_track (by omega) cols, has_track (by omega) (by omega)⟩
  | @exit above main below h =>
    have wide := rails_inside (p := p) (h ▸ trivial)
    exact ⟨has_track (by omega) (by omega), has_track (by omega) (by omega)⟩
  | @lead q joins =>
    have free := free_of_rails joins.railed joins.part
    have := q.cols_pos
    exact ⟨has_track_of_part joins.part (by omega) (by omega),
      has_track_of_part joins.part (by omega) (by omega)⟩
  | @trail q joins =>
    have free := free_of_rails joins.railed joins.part
    have := q.cols_pos
    exact ⟨has_track_of_part joins.part (by omega) (by omega),
      has_track_of_part joins.part (by omega) (by omega)⟩
  | @toBody _ _ q h head =>
    have bounds := part_bounds (List.mem_of_head? head)
    have := q.cols_pos
    exact ⟨has_track (by omega) cols, has_track (by omega) (by omega)⟩
  | @fromBody _ _ q h head =>
    have bounds := part_bounds (List.mem_of_head? head)
    have := q.cols_pos
    exact ⟨has_track (by omega) (by omega), has_track (by omega) (by omega)⟩

/-- All that is drawn of a figure lies in its rectangle. -/
theorem strokes_within (p : Placed) : ∀ s ∈ p.strokes, s.Within p.area := by
  induction p using Placed.induct with
  | step p ih =>
    intro s drawn
    rcases mem_strokes.mp drawn with own | ⟨q, part, drawn⟩
    · exact own_within own
    · exact (ih q part s drawn).mono (part_inside part)

end Placed

namespace Plan

theorem trackRow_root (plan : Plan) : plan.root.trackRow = plan.trackRow := Nat.zero_add _

theorem width_eq (plan : Plan) : plan.width = plan.root.endCol + 2 := by
  simp only [width, root, Placed.endCol]; omega

theorem root_inside (plan : Plan) : plan.root.area.Inside plan.area := by
  simp only [Area.Inside, Placed.area, area, root, width, height, Placed.endCol, Placed.endRow]
  omega

theorem strokes_within (plan : Plan) : ∀ s ∈ plan.strokes, s.Within plan.area := by
  have cols := plan.figure.width_pos
  have rows := plan.figure.fall_pos
  intro s drawn
  simp only [strokes, List.mem_append, List.mem_cons, List.not_mem_nil, or_false] at drawn
  rcases drawn with ((rfl | rfl) | drawn) | rfl | rfl
  · simp only [Stroke.Within, Area.Has, area, width, height, trackRow, Figure.height]; omega
  · simp only [Stroke.Within, Area.Has, area, width, height, trackRow, root, Figure.height]; omega
  · exact (plan.root.strokes_within s drawn).mono plan.root_inside
  · simp only [Stroke.Within, Area.Has, area, width, height, trackRow, root, Placed.endCol,
      Figure.height]
    omega
  · simp only [Stroke.Within, Area.Has, area, width, height, trackRow, Figure.height]; omega

/-- The columns and rows of a grid with few enough cells can be counted. -/
theorem counted (plan : Plan) (fits : plan.width * plan.height < Grid.areaLimit) :
    plan.width ≤ Grid.areaLimit ∧ plan.height ≤ Grid.areaLimit := by
  have rows : 0 < plan.height := by
    have := plan.figure.fall_pos
    simp only [height, Figure.height]; omega
  have columns : 0 < plan.width := by simp only [width]; omega
  exact ⟨Nat.le_trans (Nat.le_mul_of_pos_right _ rows) fits.le,
    Nat.le_trans (Nat.le_mul_of_pos_left _ columns) fits.le⟩

/-- Everything marked on the grid of the plan, in order. -/
def marks (plan : Plan) : List Mark := plan.strokes.flatMap (·.plainMarks plan.width)

/-- The grid has the size of the plan, and each cell holds what the marks made in it leave of a
blank. -/
structure ShownBy (plan : Plan) (g : Grid) : Prop where
  area : g.area = plan.area
  cell : ∀ x y, g.cell x y = Cell.after x y ⟨' ', .none⟩ plan.marks

theorem drawn_of_fits (plan : Plan) (fits : plan.width * plan.height < Grid.areaLimit) :
    ∃ g, plan.drawn = .ok g ∧ plan.ShownBy g := by
  obtain ⟨blank, ok, width, height⟩ := Grid.blank_of_fits fits ' '
  have area : blank.area = plan.area := by rw [Grid.area, width, height, Plan.area]
  obtain ⟨wide, high⟩ := plan.counted fits
  have within : ∀ s ∈ plan.strokes, s.Within blank.area := area ▸ plan.strokes_within
  obtain ⟨g, all, marked⟩ := Grid.drawAll_of_within within (width ▸ wide) (height ▸ high)
  refine ⟨g, ?_, marked.area.trans area, fun x y => ?_⟩
  · simp only [drawn, ok, bind, Except.bind, all]
  · rw [marked.cell, width, ← marks]
    by_cases has : x < plan.width ∧ y < plan.height
    · rw [Grid.cell_blank ok has]
    · rw [Grid.cell_outside (width ▸ height ▸ has)]

theorem drawn_of_not_fits (plan : Plan) (large : ¬ plan.width * plan.height < Grid.areaLimit) :
    plan.drawn = .error (.areaOverflow plan.width plan.height) := by
  simp only [drawn, Grid.blank, if_neg large, bind, Except.bind]

end Plan

/-- No stroke of a drawing leaves the grid, whatever has been drawn before it, and no column or
row is reckoned back from a smaller one. A diagram has a drawing unless its grid would have too
many cells. -/
theorem Diagram.drawing_within_grid (style : Style) (d : Diagram) :
    let plan := Plan.ofDiagram style d
    (∀ s ∈ plan.strokes, s.Within plan.area ∧
      ∀ g : Grid, g.width = plan.width → g.height = plan.height → (g.draw s).2 = none) ∧
    (∀ p, plan.root.Holds p →
      p.x < p.endCol ∧ p.y < p.endRow ∧ (p.figure.Railed → p.x + 2 < p.endCol)) ∧
    ((∃ text, d.text style = .ok text) ↔ plan.width * plan.height < Grid.areaLimit) := by
  intro plan
  refine ⟨fun s drawn => ?_, fun p held => ⟨p.cols_pos, ?_, fun railed => ?_⟩, ?_, fun fits => ?_⟩
  · have within := plan.strokes_within s drawn
    refine ⟨within, fun g width height => ?_⟩
    have area : g.area = plan.area := by rw [Grid.area, width, height, Plan.area]
    have fits : s.Fits g.width g.height := (area ▸ within : s.Within g.area).fits
    exact Grid.draw_fault_eq_none.mpr fits
  · have := p.track_inside; omega
  · have := Placed.rails_inside railed; omega
  · rintro ⟨text, ok⟩
    refine Decidable.byContradiction fun large => ?_
    rw [Diagram.text, Plan.text, plan.drawn_of_not_fits large] at ok
    cases ok
  · obtain ⟨g, ok, -⟩ := plan.drawn_of_fits fits
    exact ⟨g.trimmedText, by rw [Diagram.text, Plan.text, ok]; rfl⟩

end Trackplan
