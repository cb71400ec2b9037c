import Trackplan.Proofs.Glyphs

/-! Leaves are drawn intact. Whatever else a drawing holds, a box, a caption or a plain track shows
all of its frame, text and line where it stands: other figures reach its rectangle only with the
track that enters and leaves it. -/
namespace Trackplan

namespace Grid

/-- A closed frame with the track joined to both sides and the label on the track's row. A label
may hold line characters, which join their neighbours instead of showing as they are. -/
structure ShowsBox (g : Grid) (p : Placed) (label : String) : Prop where
  topLeft : g.get p.x p.y = .ok '┌'
  top : ∀ x, p.x < x → x + 1 < p.endCol → g.get x p.y = .ok '─'
  topRight : g.get (p.endCol - 1) p.y = .ok '┐'
  left : g.get p.x (p.y + 1) = .ok '┤'
  before : g.get (p.x + 1) (p.y + 1) = .ok ' '
  label : ∀ i c, label.toList[i]? = some c → Edges.ofChar? c = none →
    g.get (p.x + 2 + i) (p.y + 1) = .ok c
  after : g.get (p.endCol - 2) (p.y + 1) = .ok ' '
  right : g.get (p.endCol - 1) (p.y + 1) = .ok '├'
  bottomLeft : g.get p.x (p.y + 2) = .ok '└'
  bottom : ∀ x, p.x < x → x + 1 < p.endCol → g.get x (p.y + 2) = .ok '─'
  bottomRight : g.get (p.endCol - 1) (p.y + 2) = .ok '┘'

structure ShowsCaption (g : Grid) (p : Placed) (text : String) : Prop where
  text : ∀ i c, text.toList[i]? = some c → Edges.ofChar? c = none →
    g.get (p.x + 1 + i) p.y = .ok c
  track : ∀ x, p.x ≤ x → x < p.endCol → g.get x (p.y + 1) = .ok '─'

def ShowsTrack (g : Grid) (p : Placed) : Prop :=
  ∀ x, p.x ≤ x → x < p.endCol → g.get x p.y = .ok '─'

structure ShowsLeaf (g : Grid) (p : Placed) : Prop where
  box : ∀ shape label, p.figure = .box shape label → g.ShowsBox p label
  caption : ∀ text, p.figure = .caption text → g.ShowsCaption p text
  track : ∀ length, p.figure = .track length → g.ShowsTrack p

end Grid

theorem Text.lt_length_of_getElem? {text : String} {i : Nat} {c : Char}
    (found : text.toList[i]? = some c) : i < text.length := by
  rw [← String.length_toList]
  exact (List.getElem?_eq_some_iff.mp found).1

theorem Stroke.write_marks {text : String} {i x y columns : Nat} {c : Char}
    (found : text.toList[i]? = some c) (wide : x + i < columns) :
    ⟨x + i, y, c⟩ ∈ (write x y text).plainMarks columns :=
  mem_writeMarks.mpr ⟨rfl, Nat.le_add_right .., wide, by simpa using found⟩

theorem Stroke.edge_of_frame {m : Mark} {x y right bottom : Nat}
    (marked : m ∈ borderMarks x y right bottom) :
    m.y = y ∨ m.y = bottom ∨ m.x = x ∨ m.x = right := by
  rcases mem_borderMarks.mp marked with ⟨-, -, row, -⟩ | ⟨-, -, column, -⟩ | rfl | rfl | rfl | rfl
  · exact row.imp_right .inl
  · exact .inr (.inr column)
  all_goals simp

/-- The character of a frame in a cell of its outline. -/
def Stroke.outline (x y right bottom column row : Nat) : Char :=
  if x < column ∧ column < right then '─'
  else if y < row ∧ row < bottom then '│'
  else if row = y then if column = x then '┌' else '┐'
  else if column = x then '└' else '┘'

theorem Stroke.eq_outline {x y right bottom column row : Nat} {c : Char} (wide : x < right)
    (high : y < bottom) (marked : ⟨column, row, c⟩ ∈ borderMarks x y right bottom) :
    c = outline x y right bottom column row := by
  have notRight : right ≠ x := by omega
  have notBottom : bottom ≠ y := by omega
  simp only [mem_borderMarks, Mark.mk.injEq] at marked
  rcases marked with ⟨low, high, -, rfl⟩ | ⟨low, high, side, rfl⟩ | ⟨rfl, rfl, rfl⟩ |
    ⟨rfl, rfl, rfl⟩ | ⟨rfl, rfl, rfl⟩ | ⟨rfl, rfl, rfl⟩
  · simp [outline, low, high]
  · have : ¬ (x < column ∧ column < right) := by omega
    simp [outline, this, low, high]
  all_goals simp [outline, notRight, notBottom]

namespace Placed

variable {p : Placed} {m : Mark} {columns : Nat}

/-- The size of a box, with the column after its last one. -/
theorem box_size {shape : Figure.Shape} {label : String} (h : p.figure = .box shape label) :
    p.endCol = p.x + (label.length + 4) ∧ p.endRow = p.y + 3 ∧ p.trackRow = p.y + 1 := by
  refine ⟨?_, ?_, ?_⟩
  · rw [endCol, h, Figure.width]
  · rw [endRow, h]; rfl
  · rw [trackRow, h]; rfl

theorem caption_size {text : String} (h : p.figure = .caption text) :
    p.endCol = p.x + (text.length + 2) ∧ p.endRow = p.y + 2 ∧ p.trackRow = p.y + 1 := by
  refine ⟨?_, ?_, ?_⟩
  · rw [endCol, h, Figure.width]
  · rw [endRow, h]; rfl
  · rw [trackRow, h]; rfl

theorem track_size {length : Nat} (h : p.figure = .track length) :
    p.endRow = p.y + 1 ∧ p.trackRow = p.y := by
  refine ⟨?_, ?_⟩
  · rw [endRow, h]; rfl
  · rw [trackRow, h]; rfl

theorem mem_marks_box {shape : Figure.Shape} {label : String} (h : p.figure = .box shape label) :
    m ∈ p.marks columns ↔ m ∈ Stroke.borderMarks p.x p.y (p.endCol - 1) (p.y + 2) ∨
      m ∈ (Stroke.write (p.x + 2) (p.y + 1) label).plainMarks columns := by
  obtain ⟨x, y, f⟩ := p
  cases h
  have thick : Stroke.isThin (Figure.box shape label).width (Figure.box shape label).height =
      false := by
    have wide : ¬ (Figure.box shape label).width < 2 := by simp only [Figure.width]; omega
    simp [Stroke.isThin, wide, Figure.height, Figure.rise, Figure.fall]
  simp only [marks, strokes, Figure.strokes, List.flatMap_cons, List.flatMap_nil,
    Stroke.plainMarks, Stroke.marks, thick, List.append_nil, List.mem_append]
  rfl

theorem mem_marks_caption {text : String} (h : p.figure = .caption text) :
    m ∈ p.marks columns ↔ m ∈ (Stroke.write (p.x + 1) p.y text).plainMarks columns ∨
      m ∈ (Stroke.across p.x (p.endCol - 1) (p.y + 1)).plainMarks columns := by
  rw [lastCol_eq]
  obtain ⟨x, y, f⟩ := p
  cases h
  simp only [marks, strokes, Figure.strokes, List.flatMap_cons, List.flatMap_nil,
    Stroke.plainMarks, Stroke.marks, List.append_nil, List.mem_append]
  rfl

theorem mem_marks_track {length : Nat} (h : p.figure = .track length) :
    m ∈ p.marks columns ↔ m ∈ (Stroke.across p.x (p.endCol - 1) p.y).plainMarks columns := by
  rw [lastCol_eq]
  obtain ⟨x, y, f⟩ := p
  cases h
  simp only [marks, strokes, Figure.strokes, List.flatMap_cons, List.flatMap_nil,
    Stroke.plainMarks, Stroke.marks, List.append_nil]

end Placed

namespace Plan

variable {plan : Plan} {g : Grid} {p : Placed} {m : Mark} {x y : Nat} {c : Char}
  {shape : Figure.Shape} {label text : String}

theorem held_inside (held : plan.root.Holds p) : p.area.Inside plan.area :=
  held.inside.trans plan.root_inside

theorem has_of_held (held : plan.root.Holds p)
    (here : p.x ≤ x ∧ x < p.endCol ∧ p.y ≤ y ∧ y < p.endRow) : plan.area.Has x y :=
  Area.Has.mono (held_inside held) here

theorem mem_marks_of_held (held : plan.root.Holds p) (marked : m ∈ p.marks plan.width) :
    m ∈ plan.marks := by
  obtain ⟨s, drawn, marked⟩ := List.mem_flatMap.mp (held.mem_marks marked)
  refine List.mem_flatMap.mpr ⟨s, ?_, marked⟩
  simp only [strokes, List.mem_append]
  exact .inl (.inr drawn)

/-- A cell of a figure shows a mark of the figure if no other mark of the figure is made there and
no track reaches it from outside. -/
theorem drawsOnly_of_held (held : plan.root.Holds p) (marked : ⟨x, y, c⟩ ∈ p.marks plan.width)
    (own : ∀ d, ⟨x, y, d⟩ ∈ p.marks plan.width → d = c)
    (outside : ∀ d, p.TrackEnd ⟨x, y, d⟩ → d = c) : plan.DrawsOnly x y c where
  drawn := ⟨_, mem_marks_of_held held marked, rfl, rfl⟩
  only m drawn here := by
    have has : p.area.Has x y := Placed.has_of_mem_marks marked
    obtain ⟨rfl, rfl⟩ := here
    rcases origin held drawn has with mine | track
    · exact own m.c mine
    · exact outside m.c track

theorem drawsOnly_of_frame (held : plan.root.Holds p) (h : p.figure = .box shape label)
    (marked : ⟨x, y, c⟩ ∈ Stroke.borderMarks p.x p.y (p.endCol - 1) (p.y + 2))
    (row : y ≠ p.y + 1) : plan.DrawsOnly x y c := by
  obtain ⟨cols, rows, track⟩ := Placed.box_size h
  have outline := Stroke.eq_outline (by omega) (by omega) marked
  refine drawsOnly_of_held held ((Placed.mem_marks_box h).mpr (.inl marked)) ?_ ?_
  · intro d own
    rcases (Placed.mem_marks_box h).mp own with frame | write
    · exact (Stroke.eq_outline (by omega) (by omega) frame).trans outline.symm
    · exact absurd (Stroke.mem_writeMarks.mp write).1 row
  · rintro d ⟨-, onTrack, -⟩
    exact absurd (onTrack.trans track) row

/-- Inside a box only its label is drawn. -/
theorem drawn_inside_box (held : plan.root.Holds p) (h : p.figure = .box shape label)
    (low : p.x < x) (high : x + 1 < p.endCol) (drawn : m ∈ plan.marks) (here : m.At x (p.y + 1)) :
    p.x + 2 ≤ x ∧ label.toList[x - (p.x + 2)]? = some m.c := by
  obtain ⟨cols, rows, track⟩ := Placed.box_size h
  obtain ⟨rfl, row⟩ := here
  have has : p.area.Has m.x m.y := by simp only [Area.Has, Placed.area]; omega
  rcases origin held drawn has with own | ⟨-, -, column⟩
  · rcases (Placed.mem_marks_box h).mp own with frame | write
    · have edge := Stroke.edge_of_frame frame
      omega
    · obtain ⟨-, after, -, found⟩ := Stroke.mem_writeMarks.mp write
      exact ⟨after, found⟩
  · omega

theorem drawsOnly_of_label {i : Nat} (held : plan.root.Holds p) (h : p.figure = .box shape label)
    (found : label.toList[i]? = some c) : plan.DrawsOnly (p.x + 2 + i) (p.y + 1) c := by
  obtain ⟨cols, rows, track⟩ := Placed.box_size h
  have short := Text.lt_length_of_getElem? found
  have has : plan.area.Has (p.x + 2 + i) (p.y + 1) := has_of_held held (by omega)
  constructor
  · have marked := (Placed.mem_marks_box h).mpr (.inr (Stroke.write_marks found has.2.1))
    exact ⟨_, mem_marks_of_held held marked, rfl, rfl⟩
  · intro m drawn here
    have shown := (drawn_inside_box held h (by omega) (by omega) drawn here).2
    rw [Nat.add_sub_cancel_left, found] at shown
    exact (Option.some.inj shown).symm

theorem ShownBy.blank_beside_label (shown : plan.ShownBy g) (held : plan.root.Holds p)
    (h : p.figure = .box shape label) (column : x = p.x + 1 ∨ x = p.endCol - 2) :
    g.cell x (p.y + 1) = ⟨' ', .none⟩ := by
  obtain ⟨cols, -, -⟩ := Placed.box_size h
  refine shown.cell_of_untouched fun m drawn here => ?_
  obtain ⟨after, found⟩ := drawn_inside_box held h (by omega) (by omega) drawn here
  have short := Text.lt_length_of_getElem? found
  omega

theorem ShownBy.side_of_box (shown : plan.ShownBy g) (held : plan.root.Holds p)
    (h : p.figure = .box shape label) (column : x = p.x ∨ x = p.endCol - 1) :
    (g.edges x (p.y + 1)).up = true ∧ (g.edges x (p.y + 1)).down = true := by
  obtain ⟨cols, rows, -⟩ := Placed.box_size h
  have has : p.area.Has x (p.y + 1) := by simp only [Area.Has, Placed.area]; omega
  have clear := clear_of_edge held has (by omega)
  have frame : ⟨x, p.y + 1, '│'⟩ ∈ Stroke.borderMarks p.x p.y (p.endCol - 1) (p.y + 2) :=
    Stroke.mem_borderMarks.mpr (.inr (.inl ⟨Nat.lt_succ_self _, Nat.lt_succ_self _, column, rfl⟩))
  have marked := mem_marks_of_held held ((Placed.mem_marks_box h).mpr (.inl frame))
  obtain ⟨s, drawn, marked⟩ := List.mem_flatMap.mp marked
  exact ⟨shown.reach_of_mark .up clear drawn marked ⟨.upright, rfl, rfl⟩,
    shown.reach_of_mark .down clear drawn marked ⟨.upright, rfl, rfl⟩⟩

theorem ShownBy.edges_of_frame {e : Edges} (shown : plan.ShownBy g) (held : plan.root.Holds p)
    (h : p.figure = .box shape label) (line : Edges.ofChar? c = some e) (row : y ≠ p.y + 1)
    (marked : ⟨x, y, c⟩ ∈ Stroke.borderMarks p.x p.y (p.endCol - 1) (p.y + 2)) : g.edges x y = e :=
  shown.edges_of_line line (drawsOnly_of_frame held h marked row)

theorem drawsOnly_of_level (held : plan.root.Holds p) (h : p.figure = .box shape label)
    (left : p.x < x) (right : x + 1 < p.endCol) (row : y = p.y ∨ y = p.y + 2) :
    plan.DrawsOnly x y '─' :=
  drawsOnly_of_frame held h
    (Stroke.mem_borderMarks.mpr (.inl ⟨left, Nat.lt_sub_of_add_lt right, row, rfl⟩)) (by omega)

/-- What the corners of a box carry, and that the cells next to them carry the level sides. -/
theorem ShownBy.corners_of_box (shown : plan.ShownBy g) (held : plan.root.Holds p)
    (h : p.figure = .box shape label) :
    (g.edges p.x p.y = ⟨false, true, false, true⟩ ∧
      g.edges (p.endCol - 1) p.y = ⟨true, false, false, true⟩ ∧
      g.edges p.x (p.y + 2) = ⟨false, true, true, false⟩ ∧
      g.edges (p.endCol - 1) (p.y + 2) = ⟨true, false, true, false⟩) ∧
    ∀ y, y = p.y ∨ y = p.y + 2 →
      g.edges (p.x + 1) y = .across ∧ g.edges (p.endCol - 1 - 1) y = .across := by
  obtain ⟨cols, -, -⟩ := Placed.box_size h
  refine ⟨⟨?_, ?_, ?_, ?_⟩, fun y row => ⟨?_, ?_⟩⟩
  · exact shown.edges_of_frame held h rfl (by omega)
      (Stroke.mem_borderMarks.mpr (.inr (.inr (.inl rfl))))
  · exact shown.edges_of_frame held h rfl (by omega)
      (Stroke.mem_borderMarks.mpr (.inr (.inr (.inr (.inl rfl)))))
  · exact shown.edges_of_frame held h rfl (by omega)
      (Stroke.mem_borderMarks.mpr (.inr (.inr (.inr (.inr (.inl rfl))))))
  · exact shown.edges_of_frame held h rfl (by omega)
      (Stroke.mem_borderMarks.mpr (.inr (.inr (.inr (.inr (.inr rfl))))))
  · exact shown.edges_of_line rfl (drawsOnly_of_level held h (by omega) (by omega) row)
  · exact shown.edges_of_line rfl (drawsOnly_of_level held h (by omega) (by omega) row)

/-- The six cells of a box in which lines meet. In each the neighbours answer the sides of the
frame and, where the track arrives, the side towards it; the blank inside answers nothing. -/
theorem ShownBy.joints_of_box (shown : plan.ShownBy g) (held : plan.root.Holds p)
    (h : p.figure = .box shape label) :
    g.answered p.x p.y = ⟨false, true, false, true⟩ ∧
    g.answered (p.endCol - 1) p.y = ⟨true, false, false, true⟩ ∧
    g.answered p.x (p.y + 1) = ⟨true, false, true, true⟩ ∧
    g.answered (p.endCol - 1) (p.y + 1) = ⟨false, true, true, true⟩ ∧
    g.answered p.x (p.y + 2) = ⟨false, true, true, false⟩ ∧
    g.answered (p.endCol - 1) (p.y + 2) = ⟨true, false, true, false⟩ := by
  obtain ⟨cols, -, track⟩ := Placed.box_size h
  have wide : 0 < p.endCol - 1 := by omega
  obtain ⟨⟨topLeft, topRight, bottomLeft, bottomRight⟩, level⟩ := shown.corners_of_box held h
  obtain ⟨topStart, topStop⟩ := level p.y (.inl rfl)
  obtain ⟨bottomStart, bottomStop⟩ := level (p.y + 2) (.inr rfl)
  have leftSide := shown.side_of_box held h (.inl rfl)
  have rightSide := shown.side_of_box held h (.inr rfl)
  have blankLeft : g.edges (p.x + 1) (p.y + 1) = .none :=
    congrArg Cell.edges (shown.blank_beside_label held h (.inl rfl))
  have blankRight : g.edges (p.endCol - 1 - 1) (p.y + 1) = .none :=
    congrArg Cell.edges (shown.blank_beside_label held h (.inr rfl))
  obtain ⟨start, enters⟩ := shown.enters held
  obtain ⟨arriving, arrives⟩ := enters (p.x - 1) (Nat.le_refl _) (by omega)
  obtain ⟨leaves, leaving⟩ := shown.leaves held (p.endCol - 1) (Nat.le_refl _) (by omega)
  rw [track] at arriving arrives leaves leaving
  rw [Nat.sub_add_cancel start] at arrives
  refine ⟨?_, ?_, ?_, ?_, ?_, ?_⟩
  · simp [Grid.answered, topLeft, topStart, leftSide, Edges.across]
  · simp [Grid.answered, topRight, topStop, rightSide, wide, Edges.across]
  · simp [Grid.answered, leftSide, topLeft, bottomLeft, blankLeft, start, arriving, arrives,
      Edges.none]
  · simp [Grid.answered, rightSide, topRight, bottomRight, blankRight, leaving, leaves, Edges.none]
  · simp [Grid.answered, bottomLeft, bottomStart, leftSide, Edges.across]
  · simp [Grid.answered, bottomRight, bottomStop, rightSide, wide, Edges.across]

theorem ShownBy.box (shown : plan.ShownBy g) (held : plan.root.Holds p)
    (h : p.figure = .box shape label) : g.ShowsBox p label := by
  obtain ⟨cols, rows, -⟩ := Placed.box_size h
  obtain ⟨topLeft, topRight, left, right, bottomLeft, bottomRight⟩ := shown.joints_of_box held h
  constructor
  case topLeft =>
    exact shown.get_of_answered (has_of_held held (by omega)) topLeft (by decide)
  case topRight =>
    exact shown.get_of_answered (has_of_held held (by omega)) topRight (by decide)
  case left =>
    exact shown.get_of_answered (has_of_held held (by omega)) left (by decide)
  case right =>
    exact shown.get_of_answered (has_of_held held (by omega)) right (by decide)
  case bottomLeft =>
    exact shown.get_of_answered (has_of_held held (by omega)) bottomLeft (by decide)
  case bottomRight =>
    exact shown.get_of_answered (has_of_held held (by omega)) bottomRight (by decide)
  case top =>
    intro x left right
    exact shown.get_of_level (has_of_held held (by omega))
      (drawsOnly_of_level held h left right (.inl rfl))
  case bottom =>
    intro x left right
    exact shown.get_of_level (has_of_held held (by omega))
      (drawsOnly_of_level held h left right (.inr rfl))
  case before =>
    exact shown.get_of_text (has_of_held held (by omega))
      (shown.blank_beside_label held h (.inl rfl))
  case after =>
    exact shown.get_of_text (has_of_held held (by omega))
      (shown.blank_beside_label held h (.inr rfl))
  case label =>
    intro i c found text
    have short := Text.lt_length_of_getElem? found
    exact shown.get_of_text (has_of_held held (by omega))
      (shown.cell_of_text text (drawsOnly_of_label held h found))

theorem drawsOnly_of_caption {i : Nat} (held : plan.root.Holds p) (h : p.figure = .caption text)
    (found : text.toList[i]? = some c) : plan.DrawsOnly (p.x + 1 + i) p.y c := by
  obtain ⟨cols, rows, track⟩ := Placed.caption_size h
  have short := Text.lt_length_of_getElem? found
  have has : plan.area.Has (p.x + 1 + i) p.y := has_of_held held (by omega)
  have marked := (Placed.mem_marks_caption h).mpr (.inl (Stroke.write_marks found has.2.1))
  refine drawsOnly_of_held held marked ?_ ?_
  · intro d own
    rcases (Placed.mem_marks_caption h).mp own with write | shelf
    · have same := (Stroke.mem_writeMarks.mp write).2.2.2
      simp only [Nat.add_sub_cancel_left, found] at same
      exact (Option.some.inj same).symm
    · have row : p.y = p.y + 1 := (Stroke.mem_acrossMarks.mp shelf).2.2.1
      omega
  · rintro d ⟨-, row, -⟩
    simp only at row
    omega

theorem ShownBy.caption (shown : plan.ShownBy g) (held : plan.root.Holds p)
    (h : p.figure = .caption text) : g.ShowsCaption p text := by
  obtain ⟨cols, rows, track⟩ := Placed.caption_size h
  constructor
  case text =>
    intro i c found plain
    have short := Text.lt_length_of_getElem? found
    exact shown.get_of_text (has_of_held held (by omega))
      (shown.cell_of_text plain (drawsOnly_of_caption held h found))
  case track =>
    intro x left right
    have marked : ⟨x, p.y + 1, '─'⟩ ∈ p.marks plan.width :=
      (Placed.mem_marks_caption h).mpr (.inr (Stroke.across_marks left (by omega)))
    refine shown.get_of_level (has_of_held held (by omega)) (drawsOnly_of_held held marked ?_ ?_)
    · intro d own
      rcases (Placed.mem_marks_caption h).mp own with write | shelf
      · have row : p.y + 1 = p.y := (Stroke.mem_writeMarks.mp write).1
        omega
      · exact (Stroke.mem_acrossMarks.mp shelf).2.2.2
    · exact fun d outside => outside.1

theorem ShownBy.plainTrack {length : Nat} (shown : plan.ShownBy g) (held : plan.root.Holds p)
    (h : p.figure = .track length) : g.ShowsTrack p := by
  obtain ⟨rows, track⟩ := Placed.track_size h
  intro x left right
  have has : plan.area.Has x p.y := has_of_held held (by omega)
  have marked : ⟨x, p.y, '─'⟩ ∈ p.marks plan.width :=
    (Placed.mem_marks_track h).mpr
      (Stroke.across_marks left (Nat.le_sub_one_of_lt right))
  refine shown.get_of_level has (drawsOnly_of_held held marked ?_ ?_)
  · exact fun d own => (Stroke.mem_acrossMarks.mp ((Placed.mem_marks_track h).mp own)).2.2.2
  · exact fun d outside => outside.1

theorem ShownBy.leaf (shown : plan.ShownBy g) (held : plan.root.Holds p) : g.ShowsLeaf p where
  box _ _ h := shown.box held h
  caption _ h := shown.caption held h
  track _ h := shown.plainTrack held h

end Plan

/-- A diagram that has a drawing shows each of its boxes, captions and plain tracks intact, at any
depth and beside whatever neighbours. -/
theorem Diagram.leaves_intact (style : Style) (d : Diagram)
    (fits : (Plan.ofDiagram style d).width * (Plan.ofDiagram style d).height < Grid.areaLimit) :
    ∃ g, (Plan.ofDiagram style d).drawn = .ok g ∧
      ∀ p, (Plan.ofDiagram style d).root.Holds p → g.ShowsLeaf p := by
  obtain ⟨g, ok, shown⟩ := (Plan.ofDiagram style d).drawn_of_fits fits
  exact ⟨g, ok, fun p held => shown.leaf held⟩

/-- The comma stands on the way back of a loop in an optional part. -/
theorem Diagram.leaves_intact_commaList :
    ∃ g p, (Plan.ofDiagram {} .commaList).drawn = .ok g ∧
      (Plan.ofDiagram {} .commaList).root.Holds p ∧
      p.figure = .box (.terminal .literal) "','" ∧ g.ShowsBox p "','" := by
  obtain ⟨g, ok, leaves⟩ := Diagram.leaves_intact {} .commaList (by decide)
  have loop := List.mem_of_getElem? (rfl : (Plan.ofDiagram {} .commaList).root.parts[1]? = some _)
  have comma := (Placed.Holds.part .self loop).part (List.mem_of_getElem? (rfl : _[1]? = some _))
  exact ⟨g, _, ok, comma, rfl, (leaves _ comma).box _ _ rfl⟩

end Trackplan
