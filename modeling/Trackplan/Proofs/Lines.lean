import Trackplan.Proofs.Leaves
import Trackplan.Proofs.Separation

/-! The lines of a drawing's text. There is one for each row of the plan, because the bottom row of
every figure carries a line; the track's own line runs from marker to marker. -/
namespace Trackplan

namespace Grid

variable {g : Grid} {lines : List (List Char)} {x y : Nat}

theorem toList_linesText (lines : List (List Char)) :
    (linesText lines).toList = ['\n'].intercalate lines := by
  rw [linesText, String.toList_intercalate, List.map_map]
  simp [Function.comp_def]

/-- Lines without line ends are found again in the text that they make up. -/
theorem splitOn_linesText (nonempty : lines ≠ []) (plain : ∀ line ∈ lines, '\n' ∉ line) :
    (linesText lines).toList.splitOn '\n' = lines := by
  rw [toList_linesText, List.splitOn_intercalate '\n' plain nonempty]

/-- A row without the blanks at its end. -/
def line (g : Grid) (y : Nat) : List Char := Text.dropTrailing (· = ' ') (g.row y)

theorem line_prefix (g : Grid) (y : Nat) : g.line y <+: g.row y := Text.dropTrailing_prefix ..

theorem getLast_line (g : Grid) (y : Nat) : (g.line y).getLast? ≠ some ' ' := by
  intro blank
  have kept := Text.getLast?_dropTrailing blank
  simp at kept

theorem mem_row {c : Char} : c ∈ g.row y ↔ ∃ x < g.width, g.glyph x y = c := by
  simp [row]

theorem newline_not_mem_line (plain : ∀ x < g.width, g.glyph x y ≠ '\n') : '\n' ∉ g.line y := by
  intro newline
  obtain ⟨x, left, shows⟩ := mem_row.mp ((g.line_prefix y).subset newline)
  exact plain x left shows

theorem line_ne_nil (inside : x < g.width) (inked : g.glyph x y ≠ ' ') : g.line y ≠ [] := by
  intro empty
  obtain ⟨dropped, split, blank⟩ := Text.exists_dropped (· = ' ') (g.row y)
  rw [show Text.dropTrailing _ (g.row y) = [] from empty, List.nil_append] at split
  have drop := blank (g.glyph x y) (split ▸ mem_row.mpr ⟨x, inside, rfl⟩)
  exact inked (of_decide_eq_true drop)

/-- Where the last row is inked, no line is lost. -/
theorem trimmedRows_of_inked (inside : x < g.width) (inked : g.glyph x (g.height - 1) ≠ ' ') :
    g.trimmedRows = (List.range g.height).map g.line := by
  have lines : g.rows.map (Text.dropTrailing (· = ' ')) = (List.range g.height).map g.line := by
    rw [rows, List.map_map]; rfl
  rw [trimmedRows, lines]
  refine Text.dropTrailing_eq_self fun last mem => ?_
  rw [List.getLast?_map, List.getLast?_range] at mem
  split at mem
  · cases mem
  · cases mem
    exact List.isEmpty_eq_false_iff.mpr (line_ne_nil inside inked)

end Grid

namespace Figure

/-- Some item of a sequence reaches down as far as the sequence does. -/
theorem exists_fall_eq (first : Figure) (rest : List Figure) :
    ∃ f ∈ first :: rest, f.fall = (Figure.sequence first rest).fall := by
  induction rest generalizing first with
  | nil => exact ⟨first, by simp, by simp [fall, deepest]⟩
  | cons next rest ih =>
    obtain ⟨f, mem, deep⟩ := ih next
    have split : (Figure.sequence first (next :: rest)).fall =
        max first.fall (Figure.sequence next rest).fall := rfl
    rw [split, ← deep]
    rcases Nat.le_total f.fall first.fall with le | le
    · exact ⟨first, by simp, (Nat.max_eq_left le).symm⟩
    · exact ⟨f, List.mem_cons_of_mem _ mem, (Nat.max_eq_right le).symm⟩

end Figure

namespace Placed

variable {p q : Placed} {m : Mark} {s : Stroke} {columns : Nat}

theorem endRow_eq (p : Placed) : p.endRow = p.trackRow + p.figure.fall := by
  simp only [endRow, trackRow, Figure.height]; omega

/-- Some part of a figure ends in the figure's last row. -/
theorem exists_part_at_bottom (nonempty : p.parts ≠ []) : ∃ q ∈ p.parts, q.endRow = p.endRow := by
  obtain ⟨part, mem⟩ := List.exists_mem_of_ne_nil _ nonempty
  rcases row_or_rails mem with ⟨first, rest, h⟩ | railed
  · obtain ⟨f, item, deep⟩ := Figure.exists_fall_eq first rest
    have figures : p.parts.map Placed.figure = first :: rest := by
      rw [parts, h, List.map_map]
      exact Figure.figures_inRow _ _ (first :: rest)
    rw [← figures] at item
    obtain ⟨q, part, rfl⟩ := List.mem_map.mp item
    refine ⟨q, part, ?_⟩
    rw [q.endRow_eq, p.endRow_eq, deep, (row h).on_track q part, h]
  · obtain ⟨last, final⟩ := Option.isSome_iff_exists.mp (List.getLast?_isSome.mpr nonempty)
    exact ⟨last, List.mem_of_getLast? final, (stack railed).ends last final⟩

/-- Some leaf of a figure ends in the figure's last row. -/
theorem exists_leaf_at_bottom (p : Placed) :
    ∃ q, p.Holds q ∧ q.parts = [] ∧ q.endRow = p.endRow := by
  induction p using Placed.induct with
  | step p ih =>
    by_cases leaf : p.parts = []
    · exact ⟨p, .self, leaf, rfl⟩
    · obtain ⟨q, part, bottom⟩ := exists_part_at_bottom leaf
      obtain ⟨r, held, leaf, end'⟩ := ih q part
      exact ⟨r, .trans (.part .self part) held, leaf, end'.trans bottom⟩

/-- Text is written from a label or caption. -/
theorem text_origin_of_own (own : p.Own s) (marked : m ∈ s.plainMarks columns) (text : m.IsText) :
    ∃ label ∈ p.figure.texts, m.c ∈ label.toList := by
  cases own with
  | @label _ label h =>
    obtain ⟨-, -, -, found⟩ := Stroke.mem_writeMarks.mp marked
    exact ⟨label, by simp [h, Figure.texts], List.mem_of_getElem? found⟩
  | @caption caption h =>
    obtain ⟨-, -, -, found⟩ := Stroke.mem_writeMarks.mp marked
    exact ⟨caption, by simp [h, Figure.texts], List.mem_of_getElem? found⟩
  | _ => exact absurd text (Stroke.not_isText marked trivial)

theorem text_origin (p : Placed) :
    ∀ m ∈ p.marks columns, m.IsText → ∃ label ∈ p.figure.texts, m.c ∈ label.toList := by
  induction p using Placed.induct with
  | step p ih =>
    intro m marked text
    rcases mem_marks.mp marked with ⟨s, own, marked⟩ | ⟨q, part, marked⟩
    · exact text_origin_of_own own marked text
    · obtain ⟨label, shown, mem⟩ := ih q part m marked text
      exact ⟨label, texts_of_part part shown, mem⟩

end Placed

namespace Plan

variable {plan : Plan} {g : Grid} {p : Placed} {m : Mark} {x y : Nat} {c : Char}

/-- Each marker is the only thing drawn in its column; between them there is the root with the
track to and from it. -/
theorem mem_marks (marked : m ∈ plan.marks) :
    m = ⟨0, plan.trackRow, startMarker⟩ ∨ m = ⟨plan.width - 1, plan.trackRow, endMarker⟩ ∨
      (1 ≤ m.x ∧ m.x + 2 ≤ plan.width) ∧ (m.c = '─' ∨ m ∈ plan.root.marks plan.width) := by
  have start : plan.root.x = 2 := rfl
  have wide := plan.width_eq
  have cols := plan.root.cols_pos
  obtain ⟨s, drawn, marked⟩ := List.mem_flatMap.mp marked
  simp only [strokes, List.mem_append, List.mem_cons, List.not_mem_nil, or_false] at drawn
  rcases drawn with ((rfl | rfl) | drawn) | rfl | rfl
  · exact .inl (List.mem_singleton.mp marked)
  · obtain ⟨low, high, -, line⟩ := Stroke.mem_acrossMarks.mp marked
    exact .inr (.inr ⟨by omega, .inl line⟩)
  · have root : m ∈ plan.root.marks plan.width := List.mem_flatMap.mpr ⟨s, drawn, marked⟩
    have has := Placed.has_of_mem_marks root
    simp only [Area.Has, Placed.area] at has
    exact .inr (.inr ⟨by omega, .inr root⟩)
  · obtain ⟨low, high, -, line⟩ := Stroke.mem_acrossMarks.mp marked
    exact .inr (.inr ⟨by omega, .inl line⟩)
  · exact .inr (.inl (List.mem_singleton.mp marked))

theorem ShownBy.size (shown : plan.ShownBy g) : g.width = plan.width ∧ g.height = plan.height :=
  ⟨congrArg Area.right shown.area, congrArg Area.bottom shown.area⟩

theorem width_gt (plan : Plan) : 4 < plan.width := by
  have := plan.figure.width_pos
  simp only [width]; omega

theorem trackRow_lt (plan : Plan) : plan.trackRow < plan.height := by
  have := plan.figure.fall_pos
  simp only [trackRow, height, Figure.height]; omega

theorem mem_marks_of_put (drawn : .put x y c ∈ plan.strokes) :
    ∃ m ∈ plan.marks, m.At x y :=
  ⟨⟨x, y, c⟩, List.mem_flatMap.mpr ⟨_, drawn, List.mem_singleton_self _⟩, rfl, rfl⟩

theorem ShownBy.start (shown : plan.ShownBy g) : g.glyph 0 plan.trackRow = startMarker := by
  have wide := plan.width_gt
  have drawn : .put 0 plan.trackRow startMarker ∈ plan.strokes := by simp [strokes]
  refine Grid.glyph_of_text (shown.cell_of_text (by decide) ⟨mem_marks_of_put drawn, ?_⟩)
  rintro m marked ⟨column, -⟩
  rcases mem_marks marked with rfl | rfl | ⟨inner, -⟩
  · rfl
  · simp only at column; omega
  · omega

theorem ShownBy.stop (shown : plan.ShownBy g) :
    g.glyph (plan.width - 1) plan.trackRow = endMarker := by
  have wide := plan.width_gt
  have drawn : .put (plan.width - 1) plan.trackRow endMarker ∈ plan.strokes := by simp [strokes]
  refine Grid.glyph_of_text (shown.cell_of_text (by decide) ⟨mem_marks_of_put drawn, ?_⟩)
  rintro m marked ⟨column, -⟩
  rcases mem_marks marked with rfl | rfl | ⟨inner, -⟩
  · simp only at column; omega
  · rfl
  · omega

/-- A character that a drawing shows is a blank, a line, a marker or from a label. -/
theorem ShownBy.glyph_origin (shown : plan.ShownBy g) (x y : Nat) :
    Edges.ofChar? (g.glyph x y) ≠ none ∨ g.glyph x y = ' ' ∨ g.glyph x y = startMarker ∨
      g.glyph x y = endMarker ∨ ∃ text ∈ plan.figure.texts, g.glyph x y ∈ text.toList := by
  by_cases line : g.edges x y = .none
  · have ink : g.glyph x y = (g.cell x y).ink := Grid.glyph_of_text (by
      rw [← line]; rfl)
    rw [ink, shown.cell]
    rcases Cell.ink_after (x := x) (y := y) with blank | ⟨m, marked, -, text, same⟩
    · exact .inr (.inl blank)
    · rw [same]
      rcases mem_marks marked with rfl | rfl | ⟨-, line | root⟩
      · exact .inr (.inr (.inl rfl))
      · exact .inr (.inr (.inr (.inl rfl)))
      · rw [Mark.IsText, line] at text
        cases text
      · exact .inr (.inr (.inr (.inr (plan.root.text_origin m root text))))
  · exact .inl (Grid.ofChar?_glyph line)

theorem ShownBy.glyph_ne_newline (shown : plan.ShownBy g)
    (plain : ∀ text ∈ plan.figure.texts, '\n' ∉ text.toList) (x y : Nat) : g.glyph x y ≠ '\n' := by
  intro newline
  have origin := shown.glyph_origin x y
  rw [newline] at origin
  rcases origin with line | blank | start | stop | ⟨text, label, mem⟩
  · exact line (by decide)
  · exact absurd blank (by decide)
  · exact absurd start (by decide)
  · exact absurd stop (by decide)
  · exact plain text label mem

/-- The last row of a leaf starts with a corner or with track. -/
theorem ShownBy.leaf_inked (shown : plan.ShownBy g) (held : plan.root.Holds p)
    (leaf : p.parts = []) : ∃ c, c ≠ ' ' ∧ g.get p.x (p.endRow - 1) = .ok c := by
  have cols := p.cols_pos
  cases h : p.figure with
  | box shape label =>
    have rows := (Placed.box_size h).2.1
    exact ⟨'└', by decide, by rw [rows]; exact (shown.box held h).bottomLeft⟩
  | caption text =>
    have rows := (Placed.caption_size h).2.1
    exact ⟨'─', by decide, by rw [rows]; exact (shown.caption held h).track _ (Nat.le_refl _) cols⟩
  | track length =>
    have rows := (Placed.track_size h).1
    exact ⟨'─', by decide, by rw [rows]; exact shown.plainTrack held h _ (Nat.le_refl _) cols⟩
  | sequence first rest => exact absurd leaf (Placed.row h).nonempty
  | branch above main below => exact absurd leaf (Placed.stack (h ▸ trivial)).nonempty
  | loop body back => exact absurd leaf (Placed.stack (h ▸ trivial)).nonempty

theorem ShownBy.bottom_inked (shown : plan.ShownBy g) :
    ∃ x < g.width, g.glyph x (g.height - 1) ≠ ' ' := by
  obtain ⟨leaf, held, alone, bottom⟩ := plan.root.exists_leaf_at_bottom
  obtain ⟨c, inked, shows⟩ := shown.leaf_inked held alone
  have last : leaf.endRow = g.height := by
    rw [bottom, shown.size.2]
    exact Nat.zero_add _
  have has : plan.area.Has leaf.x (leaf.endRow - 1) := by
    have cols := leaf.cols_pos
    have rows := leaf.track_inside
    exact has_of_held held (by omega)
  rw [shown.get has, last] at shows
  refine ⟨leaf.x, shown.size.1 ▸ has.2.1, ?_⟩
  rwa [Except.ok.inj shows]

end Plan

/-- As many lines as the plan has rows, none of them too long or with a blank at its end, and the
track's line full from marker to marker. -/
structure Plan.FilledBy (plan : Plan) (lines : List (List Char)) : Prop where
  count : lines.length = plan.height
  short : ∀ line ∈ lines, line.length ≤ plan.width
  trimmed : ∀ line ∈ lines, line.getLast? ≠ some ' '
  track : ∃ line, lines[plan.trackRow]? = some line ∧ line.length = plan.width ∧
    line.head? = some '╟' ∧ line.getLast? = some '╢'

/-- The lines of a grid that shows a plan. -/
theorem Plan.ShownBy.filled {plan : Plan} {g : Grid} (shown : plan.ShownBy g) :
    plan.FilledBy ((List.range g.height).map g.line) := by
  obtain ⟨width, height⟩ := shown.size
  have wide := plan.width_gt
  constructor
  case count => simp [height]
  case short =>
    intro line mem
    obtain ⟨y, -, rfl⟩ := List.mem_map.mp mem
    have short := (g.line_prefix y).length_le
    rwa [Grid.length_row, width] at short
  case trimmed =>
    intro line mem
    obtain ⟨y, -, rfl⟩ := List.mem_map.mp mem
    exact g.getLast_line y
  case track =>
    have first : (g.row plan.trackRow).head? = some '╟' := by
      rw [Grid.row, List.head?_map, List.head?_range, if_neg (by omega), Option.map_some,
        shown.start]
      rfl
    have last : (g.row plan.trackRow).getLast? = some '╢' := by
      rw [Grid.row, List.getLast?_map, List.getLast?_range, if_neg (by omega), Option.map_some,
        width, shown.stop]
      rfl
    have full : g.line plan.trackRow = g.row plan.trackRow := by
      refine Text.dropTrailing_eq_self fun c mem => ?_
      rw [last] at mem
      cases mem
      rfl
    refine ⟨g.row plan.trackRow, ?_, by rw [Grid.length_row, width], first, last⟩
    have inside : plan.trackRow < g.height := height ▸ plan.trackRow_lt
    rw [List.getElem?_map, List.getElem?_range inside, Option.map_some, full]

/-- The text of a drawing, split at its line ends. -/
theorem Diagram.text_filled (style : Style) (d : Diagram)
    (fits : (Plan.ofDiagram style d).width * (Plan.ofDiagram style d).height < Grid.areaLimit)
    (plain : ∀ label ∈ (Plan.ofDiagram style d).figure.texts, '\n' ∉ label.toList) :
    ∃ text, d.text style = .ok text ∧
      (Plan.ofDiagram style d).FilledBy (text.toList.splitOn '\n') := by
  obtain ⟨g, ok, shown⟩ := (Plan.ofDiagram style d).drawn_of_fits fits
  refine ⟨g.trimmedText, by rw [Diagram.text, Plan.text, ok]; rfl, ?_⟩
  obtain ⟨x, inside, inked⟩ := shown.bottom_inked
  rw [Grid.trimmedText, Grid.trimmedRows_of_inked inside inked, Grid.splitOn_linesText]
  · exact shown.filled
  · have rows := (Plan.ofDiagram style d).trackRow_lt
    rw [← shown.size.2] at rows
    exact List.ne_nil_of_length_pos (by simp; omega)
  · intro line mem newline
    obtain ⟨y, -, rfl⟩ := List.mem_map.mp mem
    obtain ⟨column, -, shows⟩ := Grid.mem_row.mp ((g.line_prefix y).subset newline)
    exact shown.glyph_ne_newline plain column y shows

theorem Diagram.text_filled_commaList :
    (∀ label ∈ (Plan.ofDiagram {} .commaList).figure.texts, '\n' ∉ label.toList) ∧
      ∃ text, Diagram.text {} .commaList = .ok text ∧
        (Plan.ofDiagram {} .commaList).FilledBy (text.toList.splitOn '\n') := by
  have texts : (Plan.ofDiagram {} .commaList).figure.texts = ["key", "value", "','"] := rfl
  have plain : ∀ label ∈ (Plan.ofDiagram {} .commaList).figure.texts, '\n' ∉ label.toList := by
    rw [texts]
    decide
  exact ⟨plain, Diagram.text_filled {} .commaList (by decide) plain⟩

end Trackplan
