import Trackplan.Proofs.Origin

/-! The track is unbroken. Around every figure of a drawing, along every connection between its
parts and along its rails each cell is linked to the next, because a stroke covers both and no
text is written in either. -/
namespace Trackplan

namespace Grid

/-- The cell and the one to its right carry the sides towards each other. -/
def LinkedAcross (g : Grid) (x y : Nat) : Prop :=
  (g.edges x y).right = true ∧ (g.edges (x + 1) y).left = true

/-- The cell and the one below carry the sides towards each other. -/
def LinkedDown (g : Grid) (x y : Nat) : Prop :=
  (g.edges x y).down = true ∧ (g.edges x (y + 1)).up = true

/-- From the one column to the other each cell of the row is linked to the next. -/
def Track (g : Grid) (left right y : Nat) : Prop :=
  ∀ x, left ≤ x → x + 1 ≤ right → g.LinkedAcross x y

/-- From the one row to the other each cell of the column is linked to the next. -/
def Rail (g : Grid) (x top bottom : Nat) : Prop :=
  ∀ y, top ≤ y → y + 1 ≤ bottom → g.LinkedDown x y

theorem Track.mono {g : Grid} {left right left' right' y : Nat} (track : g.Track left right y)
    (low : left ≤ left') (high : right' ≤ right) : g.Track left' right' y :=
  fun x after before => track x (Nat.le_trans low after) (Nat.le_trans before high)

/-- The track to and from a figure, between its items, to and from its paths, and its rails. -/
structure Unbroken (g : Grid) (p : Placed) : Prop where
  enters : 0 < p.x ∧ g.Track (p.x - 1) p.x p.trackRow
  leaves : g.Track (p.endCol - 1) p.endCol p.trackRow
  between : ∀ first rest, p.figure = .sequence first rest → ∀ a b, [a, b] <:+: p.parts →
    g.Track (a.endCol - 1) b.x p.trackRow
  toRail : p.figure.Railed → g.Track p.x (p.x + 1) p.trackRow
  fromRail : p.figure.Railed → g.Track (p.endCol - 2) (p.endCol - 1) p.trackRow
  toPart : p.figure.Railed → ∀ q ∈ p.parts, g.Track (p.x + 1) q.x q.trackRow
  fromPart : p.figure.Railed → ∀ q ∈ p.parts, g.Track (q.endCol - 1) (p.endCol - 2) q.trackRow
  rails : p.figure.Railed → ∀ a ∈ p.parts.head?, ∀ b ∈ p.parts.getLast?,
    g.Rail (p.x + 1) a.trackRow b.trackRow ∧ g.Rail (p.endCol - 2) a.trackRow b.trackRow

end Grid

namespace Placed

variable {p q : Placed}

theorem head_or_last {body back : Figure} (h : p.figure = .loop body back) (part : q ∈ p.parts) :
    p.parts.head? = some q ∨ p.parts.getLast? = some q := by
  obtain ⟨x, y, f⟩ := p
  cases h
  simp only [parts, Figure.children, List.map_cons, List.map_nil, List.mem_cons, List.not_mem_nil,
    or_false] at part
  rcases part with rfl | rfl
  · exact .inl rfl
  · exact .inr rfl

/-- The track to a part starts at the left rail or before it. -/
theorem own_to_part (railed : p.figure.Railed) (part : q ∈ p.parts) :
    ∃ start ≤ p.x + 1, p.Own (.across start q.x q.trackRow) := by
  rcases railed.branch_or_loop with ⟨above, main, below, h⟩ | ⟨body, back, h⟩
  · exact ⟨_, Nat.le_refl _, .lead (.path h part)⟩
  · rcases head_or_last h part with head | last
    · rw [bodyTrack h head]
      exact ⟨p.x, Nat.le_succ _, .toBody h head⟩
    · exact ⟨_, Nat.le_refl _, .lead (.back h last)⟩

/-- The track from a part ends at the right rail or after it. -/
theorem own_from_part (railed : p.figure.Railed) (part : q ∈ p.parts) :
    ∃ stop, p.endCol - 2 ≤ stop ∧ p.Own (.across (q.endCol - 1) stop q.trackRow) := by
  rcases railed.branch_or_loop with ⟨above, main, below, h⟩ | ⟨body, back, h⟩
  · exact ⟨_, Nat.le_refl _, .trail (.path h part)⟩
  · rcases head_or_last h part with head | last
    · rw [bodyTrack h head]
      exact ⟨p.endCol - 1, by omega, .fromBody h head⟩
    · exact ⟨_, Nat.le_refl _, .trail (.back h last)⟩

/-- The track into a figure runs from its first column to the left rail or beyond. -/
theorem own_entry (railed : p.figure.Railed) :
    ∃ stop, p.x + 1 ≤ stop ∧ p.Own (.across p.x stop p.trackRow) := by
  rcases railed.branch_or_loop with ⟨above, main, below, h⟩ | ⟨body, back, h⟩
  · exact ⟨_, Nat.le_refl _, .entry h⟩
  · have head := List.head?_eq_some_head (stack railed).nonempty
    have free := free_of_rails railed (List.mem_of_head? head)
    exact ⟨_, by omega, .toBody h head⟩

theorem own_exit (railed : p.figure.Railed) :
    ∃ start ≤ p.endCol - 2, p.Own (.across start (p.endCol - 1) p.trackRow) := by
  rcases railed.branch_or_loop with ⟨above, main, below, h⟩ | ⟨body, back, h⟩
  · exact ⟨_, Nat.le_refl _, .exit h⟩
  · have head := List.head?_eq_some_head (stack railed).nonempty
    have free := free_of_rails railed (List.mem_of_head? head)
    exact ⟨_, by omega, .fromBody h head⟩

end Placed

namespace Plan

variable {plan : Plan} {g : Grid} {p q r a b : Placed} {s : Stroke} {x y : Nat}

theorem ShownBy.mark_of_reach (shown : plan.ShownBy g) (side : Side)
    (reach : (g.edges x y).reach side = true) : ∃ m ∈ plan.marks, m.At x y ∧ m.Reaches side := by
  rw [Grid.edges, shown.cell] at reach
  rcases Cell.reach_after reach with blank | drawn
  · cases side <;> cases blank
  · exact drawn

theorem ShownBy.reach_of_mark {c : Char} (shown : plan.ShownBy g) (side : Side)
    (clear : plan.Clear x y) (drawn : s ∈ plan.strokes)
    (marked : ⟨x, y, c⟩ ∈ s.plainMarks plan.width)
    (reaches : (Mark.mk x y c).Reaches side) : (g.edges x y).reach side = true := by
  rw [Grid.edges, shown.cell]
  exact Cell.reach_of_mark clear (List.mem_flatMap.mpr ⟨s, drawn, marked⟩) ⟨rfl, rfl⟩ reaches

theorem ShownBy.track {x₀ x₁ left right : Nat} (shown : plan.ShownBy g)
    (drawn : .across x₀ x₁ y ∈ plan.strokes) (low : x₀ ≤ left) (high : right ≤ x₁)
    (clear : ∀ x, left ≤ x → x ≤ right → plan.Clear x y) : g.Track left right y := by
  intro x after before
  constructor
  · exact shown.reach_of_mark .right (clear x after (by omega)) drawn
      (Stroke.across_marks (by omega) (by omega)) ⟨.across, rfl, rfl⟩
  · exact shown.reach_of_mark .left (clear (x + 1) (by omega) before) drawn
      (Stroke.across_marks (by omega) (by omega)) ⟨.across, rfl, rfl⟩

theorem ShownBy.rail {top bottom : Nat} (shown : plan.ShownBy g)
    (drawn : .upright x top bottom ∈ plan.strokes)
    (clear : ∀ y, top ≤ y → y ≤ bottom → plan.Clear x y) : g.Rail x top bottom := by
  intro y after before
  constructor
  · exact shown.reach_of_mark .down (clear y after (by omega)) drawn
      (Stroke.upright_marks (by omega) (by omega)) ⟨.upright, rfl, rfl⟩
  · exact shown.reach_of_mark .up (clear (y + 1) (by omega) before) drawn
      (Stroke.upright_marks (by omega) (by omega)) ⟨.upright, rfl, rfl⟩

theorem mem_strokes_of_own (held : plan.root.Holds p) (own : p.Own s) : s ∈ plan.strokes := by
  have drawn : s ∈ plan.root.strokes := held.mem_strokes (Placed.mem_strokes.mpr (.inl own))
  simp only [strokes, List.mem_append]
  exact .inl (.inr drawn)

/-- Between two items of a sequence there is no text. -/
theorem clear_of_gap {first : Figure} {rest : List Figure} (held : plan.root.Holds p)
    (h : p.figure = .sequence first rest) (next : [a, b] <:+: p.parts) (low : a.endCol ≤ x + 1)
    (high : x ≤ b.x) : plan.Clear x p.trackRow := by
  have ina := Placed.part_bounds (Neighbours.mem_left next)
  have inb := Placed.part_bounds (Neighbours.mem_right next)
  have acols := a.cols_pos
  have bcols := b.cols_pos
  refine clear_of_between held (List.ne_nil_of_mem (Neighbours.mem_left next))
    (Placed.has_track (by omega) (by omega)) fun q part has => ?_
  simp only [Area.Has, Placed.area] at has
  rcases Neighbours.before_or_after (Placed.row h).ordered next part with before | rfl | rfl | after
  · omega
  · omega
  · omega
  · omega

/-- Between the rails there is no text on the row of a part but in that part. -/
theorem clear_of_row (held : plan.root.Holds p) (railed : p.figure.Railed) (part : r ∈ p.parts)
    (low : p.x ≤ x) (high : x < p.endCol) (outside : x ≤ r.x ∨ r.endCol ≤ x + 1) :
    plan.Clear x r.trackRow :=
  clear_of_between held (List.ne_nil_of_mem part) (Placed.has_track_of_part part low high)
    fun _ other has => (Placed.edge_of_row railed other part outside has).2

theorem clear_of_rail (held : plan.root.Holds p) (railed : p.figure.Railed)
    (rail : x = p.x + 1 ∨ x = p.endCol - 2) (low : p.y ≤ y) (high : y < p.endRow) :
    plan.Clear x y := by
  have wide := Placed.rails_inside railed
  refine clear_of_between held (Placed.stack railed).nonempty ⟨?_, ?_, low, high⟩ fun q part has => ?_
  · simp only [Placed.area]; omega
  · simp only [Placed.area]; omega
  · have free := Placed.free_of_rails railed part
    simp only [Area.Has, Placed.area] at has
    omega

/-- The cells between the markers and the root hold no text. -/
theorem clear_of_margin (left : 0 < x) (right : x + 1 < plan.width)
    (outside : ¬ plan.root.area.Has x y) : plan.Clear x y := by
  rintro m marked ⟨rfl, rfl⟩ text
  obtain ⟨s, drawn, marked⟩ := List.mem_flatMap.mp marked
  simp only [strokes, List.mem_append, List.mem_cons, List.not_mem_nil, or_false] at drawn
  rcases drawn with ((rfl | rfl) | drawn) | rfl | rfl
  · simp only [Stroke.plainMarks, Stroke.marks, List.mem_singleton] at marked
    simp only [marked] at left; omega
  · exact Stroke.not_isText marked trivial text
  · exact outside ((plan.root.strokes_within s drawn).has_mark marked)
  · exact Stroke.not_isText marked trivial text
  · simp only [Stroke.plainMarks, Stroke.marks, List.mem_singleton] at marked
    simp only [marked] at right; omega

/-- Up to the first column of the root and from its last one there is no text on its track. -/
theorem clear_of_lead (left : 0 < x) (right : x + 1 < plan.width)
    (outside : x ≤ plan.root.x ∨ plan.root.endCol ≤ x + 1) :
    plan.Clear x plan.root.trackRow := by
  -- of these cells the root has only the first or last one of its track
  by_cases has : plan.root.area.Has x plan.root.trackRow
  · refine clear_of_edge .self has ?_
    simp only [Area.Has, Placed.area] at has
    omega
  · exact clear_of_margin left right has

theorem ShownBy.root_enters (shown : plan.ShownBy g) :
    0 < plan.root.x ∧ g.Track (plan.root.x - 1) plan.root.x plan.root.trackRow := by
  have start : plan.root.x = 2 := rfl
  have wide := plan.width_eq
  have cols := plan.root.cols_pos
  have drawn : .across 1 plan.root.x plan.root.trackRow ∈ plan.strokes := by
    simp [strokes, plan.trackRow_root]
  refine ⟨by omega, shown.track drawn (by omega) (Nat.le_refl _) fun x after before => ?_⟩
  exact clear_of_lead (by omega) (by omega) (.inl before)

theorem ShownBy.root_leaves (shown : plan.ShownBy g) :
    g.Track (plan.root.endCol - 1) plan.root.endCol plan.root.trackRow := by
  have start : plan.root.x = 2 := rfl
  have wide := plan.width_eq
  have cols := plan.root.cols_pos
  have drawn : .across (plan.root.endCol - 1) (plan.width - 2) plan.root.trackRow ∈
      plan.strokes := by simp [strokes, plan.trackRow_root]
  refine shown.track drawn (Nat.le_refl _) (by omega) fun x after before => ?_
  exact clear_of_lead (by omega) (by omega) (.inr (by omega))

theorem ShownBy.between {first : Figure} {rest : List Figure} (shown : plan.ShownBy g)
    (held : plan.root.Holds p) (h : p.figure = .sequence first rest)
    (next : [a, b] <:+: p.parts) : g.Track (a.endCol - 1) b.x p.trackRow :=
  shown.track (mem_strokes_of_own held (.between h next)) (Nat.le_refl _) (Nat.le_refl _)
    fun _ low high => clear_of_gap held h next (by omega) high

theorem ShownBy.toPart (shown : plan.ShownBy g) (held : plan.root.Holds p)
    (railed : p.figure.Railed) (part : q ∈ p.parts) : g.Track (p.x + 1) q.x q.trackRow := by
  obtain ⟨start, low, own⟩ := Placed.own_to_part railed part
  have bounds := Placed.part_bounds part
  have cols := q.cols_pos
  exact shown.track (mem_strokes_of_own held own) low (Nat.le_refl _) fun x after before =>
    clear_of_row held railed part (by omega) (by omega) (.inl before)

theorem ShownBy.fromPart (shown : plan.ShownBy g) (held : plan.root.Holds p)
    (railed : p.figure.Railed) (part : q ∈ p.parts) :
    g.Track (q.endCol - 1) (p.endCol - 2) q.trackRow := by
  obtain ⟨stop, high, own⟩ := Placed.own_from_part railed part
  have bounds := Placed.part_bounds part
  have cols := q.cols_pos
  exact shown.track (mem_strokes_of_own held own) (Nat.le_refl _) high fun x after before =>
    clear_of_row held railed part (by omega) (by omega) (.inr (by omega))

theorem ShownBy.toRail (shown : plan.ShownBy g) (held : plan.root.Holds p)
    (railed : p.figure.Railed) : g.Track p.x (p.x + 1) p.trackRow := by
  obtain ⟨stop, high, own⟩ := Placed.own_entry railed
  have wide := Placed.rails_inside railed
  have rows := p.track_inside
  refine shown.track (mem_strokes_of_own held own) (Nat.le_refl _) high fun x after before => ?_
  rcases Nat.eq_or_lt_of_le after with edge | inner
  · exact clear_of_edge held (Placed.has_track after (by omega)) (.inl edge.symm)
  · exact clear_of_rail held railed (.inl (by omega)) rows.1 rows.2

theorem ShownBy.fromRail (shown : plan.ShownBy g) (held : plan.root.Holds p)
    (railed : p.figure.Railed) : g.Track (p.endCol - 2) (p.endCol - 1) p.trackRow := by
  obtain ⟨start, low, own⟩ := Placed.own_exit railed
  have wide := Placed.rails_inside railed
  have rows := p.track_inside
  refine shown.track (mem_strokes_of_own held own) low (Nat.le_refl _) fun x after before => ?_
  rcases Nat.eq_or_lt_of_le before with edge | inner
  · exact clear_of_edge held (Placed.has_track (by omega) (by omega)) (.inr (by omega))
  · exact clear_of_rail held railed (.inr (by omega)) rows.1 rows.2

theorem ShownBy.rails (shown : plan.ShownBy g) (held : plan.root.Holds p)
    (railed : p.figure.Railed) (head : a ∈ p.parts.head?) (last : b ∈ p.parts.getLast?)
    (column : x = p.x + 1 ∨ x = p.endCol - 2) : g.Rail x a.trackRow b.trackRow := by
  have above := Placed.part_bounds (List.mem_of_head? head)
  have below := Placed.part_bounds (List.mem_of_getLast? last)
  have top := a.track_inside
  have bottom := b.track_inside
  exact shown.rail (mem_strokes_of_own held (.rail railed head last column)) fun y low high =>
    clear_of_rail held railed column (by omega) (by omega)

/-- The track that reaches a figure goes on to its first item, or from a rail to each path. -/
theorem ShownBy.enters (shown : plan.ShownBy g) (held : plan.root.Holds p) :
    0 < p.x ∧ g.Track (p.x - 1) p.x p.trackRow := by
  induction held with
  | self => exact shown.root_enters
  | @part p q held part ih =>
    rcases Placed.row_or_rails part with ⟨first, rest, h⟩ | railed
    · have row := Placed.row h
      rw [row.on_track q part]
      -- the first item shares its first column with the sequence
      rcases Neighbours.head_or_after part with head | ⟨a, next⟩
      · rw [row.starts q head]
        exact ih
      · have gap : q.x = a.endCol + 2 := row.spaced a q next
        exact ⟨by omega, (shown.between held h next).mono (by omega) (Nat.le_refl _)⟩
    · have free := Placed.free_of_rails railed part
      exact ⟨by omega, (shown.toPart held railed part).mono (by omega) (Nat.le_refl _)⟩

theorem ShownBy.leaves (shown : plan.ShownBy g) (held : plan.root.Holds p) :
    g.Track (p.endCol - 1) p.endCol p.trackRow := by
  induction held with
  | self => exact shown.root_leaves
  | @part p q held part ih =>
    rcases Placed.row_or_rails part with ⟨first, rest, h⟩ | railed
    · have row := Placed.row h
      rw [row.on_track q part]
      rcases Neighbours.last_or_before part with last | ⟨b, next⟩
      · rw [row.ends q last]
        exact ih
      · have gap : b.x = q.endCol + 2 := row.spaced q b next
        exact (shown.between held h next).mono (Nat.le_refl _) (by omega)
    · have free := Placed.free_of_rails railed part
      exact (shown.fromPart held railed part).mono (Nat.le_refl _) (by omega)

theorem ShownBy.unbroken (shown : plan.ShownBy g) (held : plan.root.Holds p) : g.Unbroken p where
  enters := shown.enters held
  leaves := shown.leaves held
  between _ _ h _ _ next := shown.between held h next
  toRail railed := shown.toRail held railed
  fromRail railed := shown.fromRail held railed
  toPart railed _ part := shown.toPart held railed part
  fromPart railed _ part := shown.fromPart held railed part
  rails railed _ head _ last :=
    ⟨shown.rails held railed head last (.inl rfl), shown.rails held railed head last (.inr rfl)⟩

end Plan

/-- A diagram that has a drawing is drawn with unbroken track around and inside every figure. -/
theorem Diagram.drawing_unbroken (style : Style) (d : Diagram)
    (fits : (Plan.ofDiagram style d).width * (Plan.ofDiagram style d).height < Grid.areaLimit) :
    ∃ g, (Plan.ofDiagram style d).drawn = .ok g ∧
      ∀ p, (Plan.ofDiagram style d).root.Holds p → g.Unbroken p := by
  obtain ⟨g, ok, shown⟩ := (Plan.ofDiagram style d).drawn_of_fits fits
  exact ⟨g, ok, fun p held => shown.unbroken held⟩

theorem Diagram.drawing_unbroken_commaList :
    ∃ g, (Plan.ofDiagram {} .commaList).drawn = .ok g ∧
      ∀ p, (Plan.ofDiagram {} .commaList).root.Holds p → g.Unbroken p :=
  Diagram.drawing_unbroken {} .commaList (by decide)

end Trackplan
