import Trackplan.Proofs.Lines

/-! What is drawn in place of a definition that is missing: two lines, the label above the track and
the track from marker to marker. The name in the label may hold anything, as it is written escaped;
line characters of it stay lines, and no character of it takes more than its own cell. -/
namespace Trackplan

theorem Edges.ofChar?_of_ascii {c : Char} (ascii : c.toNat < 128) : ofChar? c = Option.none := by
  unfold ofChar?
  split
  case h_12 => rfl
  all_goals exact absurd ascii (by decide)

theorem Edges.ne_none_of_ofChar? {c : Char} {e : Edges} (drawn : ofChar? c = some e) :
    e ≠ .none := by
  unfold ofChar? at drawn
  split at drawn
  case h_12 => cases drawn
  all_goals cases drawn; decide

namespace Figure

variable {name : String} {c : Char}

theorem toList_missingText (name : String) :
    (missingText name).toList =
      "no definition for `".toList ++ Text.escapedText name.toList ++ "`".toList := by
  unfold missingText
  rw [String.toList_append, String.toList_append, Text.toList_escape]

/-- What of the text is not plain ASCII stands in the name. -/
theorem mem_missingText (mem : c ∈ (missingText name).toList) :
    c ≠ '\n' ∧ (c ∈ name.toList ∨ c.toNat < 128) := by
  have around : ∀ d ∈ "no definition for `".toList ++ "`".toList, d ≠ '\n' ∧ d.toNat < 128 := by
    simp
  rw [toList_missingText, List.mem_append, List.mem_append] at mem
  rcases mem with (before | written) | after
  · exact (around c (List.mem_append_left _ before)).imp_right .inr
  · exact Text.mem_escapedText written
  · exact (around c (List.mem_append_right _ after)).imp_right .inr

/-- The text ends in a quote, which is seen and no line. -/
theorem exists_last_of_missingText (name : String) :
    ∃ c, (missingText name).toList.getLast? = some c ∧ c ≠ ' ' ∧ Edges.ofChar? c = none := by
  refine ⟨Char.ofNat 96, ?_, by decide, rfl⟩
  rw [toList_missingText, List.getLast?_append]
  rfl

end Figure

namespace Style

variable {style : Style} {name : String}

/-- The label in place of a definition. -/
def missingLabel (style : Style) (name : String) : String := style.label (Figure.missingText name)

theorem newline_not_mem_missingLabel : '\n' ∉ (style.missingLabel name).toList := by
  intro newline
  rcases mem_label newline with text | ellipsis
  · exact (Figure.mem_missingText text).1 rfl
  · exact absurd ellipsis (by decide)

theorem lineFree_missingLabel (plain : Text.LineFree name) :
    Text.LineFree (style.missingLabel name) := by
  intro c mem
  rcases mem_label mem with text | rfl
  · rcases (Figure.mem_missingText text).2 with named | ascii
    · exact plain c named
    · exact Edges.ofChar?_of_ascii ascii
  · rfl

/-- The label ends in a character that is seen and shown as it is. -/
theorem exists_last_of_missingLabel (style : Style) (name : String) :
    ∃ c, (style.missingLabel name).toList.getLast? = some c ∧ c ≠ ' ' ∧ Edges.ofChar? c = none := by
  rcases getLast?_label style (Figure.missingText name) with full | cut
  · rw [missingLabel, full]
    exact Figure.exists_last_of_missingText name
  · exact ⟨'…', cut, by decide, rfl⟩

end Style

namespace Grid

variable {g : Grid} {x y m n : Nat} {c : Char}

/-- What is shown from a column on. -/
def stretch (g : Grid) (x n y : Nat) : List Char := (List.range n).map fun i => g.glyph (x + i) y

@[simp] theorem length_stretch : (g.stretch x n y).length = n := by simp [stretch]

theorem getElem?_stretch {i : Nat} (inside : i < n) :
    (g.stretch x n y)[i]? = some (g.glyph (x + i) y) := by
  simp [stretch, inside]

theorem row_eq_stretch (g : Grid) (y : Nat) : g.row y = g.stretch 0 g.width y := by
  simp [row, stretch]

theorem stretch_add : g.stretch x (m + n) y = g.stretch x m y ++ g.stretch (x + m) n y := by
  rw [stretch, List.range_add, List.map_append, List.map_map]
  simp only [stretch, Function.comp_def, Nat.add_assoc]

theorem stretch_eq_replicate (same : ∀ i < n, g.glyph (x + i) y = c) :
    g.stretch x n y = List.replicate n c := by
  refine List.eq_replicate_iff.mpr ⟨length_stretch, fun d mem => ?_⟩
  obtain ⟨i, inside, rfl⟩ := List.mem_map.mp mem
  exact same i (List.mem_range.mp inside)

end Grid

namespace Plan

variable {plan : Plan} {g : Grid} {m : Mark} {x y : Nat} {label : String}

/-- Outside the root all is drawn on the track's row. -/
theorem on_track_or_root (marked : m ∈ plan.marks) :
    m.y = plan.trackRow ∨ m ∈ plan.root.marks plan.width := by
  obtain ⟨s, drawn, marked⟩ := List.mem_flatMap.mp marked
  simp only [strokes, List.mem_append, List.mem_cons, List.not_mem_nil, or_false] at drawn
  rcases drawn with ((rfl | rfl) | drawn) | rfl | rfl
  · exact .inl (by rw [List.mem_singleton.mp marked])
  · exact .inl (Stroke.mem_acrossMarks.mp marked).2.2.1
  · exact .inr (List.mem_flatMap.mpr ⟨s, drawn, marked⟩)
  · exact .inl (Stroke.mem_acrossMarks.mp marked).2.2.1
  · exact .inl (by rw [List.mem_singleton.mp marked])

theorem ShownBy.glyph_of_get {c : Char} (shown : plan.ShownBy g) (has : plan.area.Has x y)
    (shows : g.get x y = .ok c) : g.glyph x y = c :=
  Except.ok.inj ((shown.get has).symm.trans shows)

/-- In the column between a marker and the root there is track. -/
theorem drawsOnly_of_lead (column : x = 1 ∨ x = plan.width - 2) :
    plan.DrawsOnly x plan.trackRow '─' := by
  have start : plan.root.x = 2 := rfl
  have wide := plan.width_eq
  have cols := plan.root.cols_pos
  constructor
  case drawn =>
    suffices ∃ x₀ x₁, .across x₀ x₁ plan.trackRow ∈ plan.strokes ∧ x₀ ≤ x ∧ x ≤ x₁ by
      obtain ⟨x₀, x₁, drawn, low, high⟩ := this
      exact ⟨_, List.mem_flatMap.mpr ⟨_, drawn, Stroke.across_marks low high⟩, rfl, rfl⟩
    rcases column with rfl | rfl
    · exact ⟨1, plan.root.x, by simp [strokes], Nat.le_refl _, by omega⟩
    · exact ⟨plan.root.endCol - 1, plan.width - 2, by simp [strokes], by omega, Nat.le_refl _⟩
  case only =>
    rintro m marked ⟨here, -⟩
    rcases mem_marks marked with rfl | rfl | ⟨-, line | root⟩
    · simp only at here; omega
    · simp only at here; omega
    · exact line
    · have inside := Placed.has_of_mem_marks root
      simp only [Area.Has, Placed.area] at inside
      omega

theorem ShownBy.lead (shown : plan.ShownBy g) (column : x = 1 ∨ x = plan.width - 2) :
    g.glyph x plan.trackRow = '─' := by
  have wide := plan.width_gt
  have has : plan.area.Has x plan.trackRow :=
    ⟨Nat.zero_le x, show x < plan.width by omega, Nat.zero_le _, plan.trackRow_lt⟩
  exact shown.glyph_of_get has (shown.get_of_level has (drawsOnly_of_lead column))

end Plan

/-- The label behind three blanks, and the track beneath it from marker to marker. Where the label
has a line character a line is shown, and any other character as it is. -/
structure Plan.CaptionLines (label : String) (shown : List Char) (lines : List (List Char)) :
    Prop where
  two : lines = [List.replicate 3 ' ' ++ shown,
    '╟' :: (List.replicate (label.length + 4) '─' ++ ['╢'])]
  length : shown.length = label.length
  text : ∀ (i : Nat) (c : Char), label.toList[i]? = some c → Edges.ofChar? c = none →
    shown[i]? = some c
  line : ∀ (i : Nat) (c : Char), label.toList[i]? = some c → Edges.ofChar? c ≠ none →
    ∃ d, shown[i]? = some d ∧ Edges.ofChar? d ≠ none

namespace Plan

variable {g : Grid} {label : String} {x : Nat}

theorem CaptionLines.verbatim {shown : List Char} {lines : List (List Char)}
    (drawn : CaptionLines label shown lines) (plain : Text.LineFree label) :
    shown = label.toList := by
  refine List.ext_getElem? fun i => ?_
  cases found : label.toList[i]? with
  | some c => exact drawn.text i c found (plain c (List.mem_of_getElem? found))
  | none =>
    rw [List.getElem?_eq_none_iff] at found ⊢
    rwa [drawn.length, ← String.length_toList]

/-- Above the track of a caption there is nothing but its text. -/
theorem ShownBy.blank_beside_caption (shown : ShownBy ⟨.caption label⟩ g)
    (outside : x < 3 ∨ label.length + 3 ≤ x) : g.glyph x 0 = ' ' := by
  refine Grid.glyph_of_text (shown.cell_of_untouched ?_)
  rintro m marked ⟨rfl, row⟩
  rcases on_track_or_root marked with track | root
  · rw [row] at track
    cases track
  · rcases (Placed.mem_marks_caption rfl).mp root with write | shelf
    · obtain ⟨-, after, -, found⟩ := Stroke.mem_writeMarks.mp write
      have short := Text.lt_length_of_getElem? found
      have start : (Plan.mk (.caption label)).root.x = 2 := rfl
      omega
    · have track := (Stroke.mem_acrossMarks.mp shelf).2.2.1
      rw [row] at track
      cases track

theorem ShownBy.row_of_caption (shown : ShownBy ⟨.caption label⟩ g) :
    g.row 0 = List.replicate 3 ' ' ++ g.stretch 3 label.length 0 ++ List.replicate 3 ' ' := by
  have width : g.width = 3 + label.length + 3 := by
    rw [shown.size.1, Nat.add_comm 3]; rfl
  have before : g.stretch 0 3 0 = List.replicate 3 ' ' :=
    Grid.stretch_eq_replicate fun i inside => shown.blank_beside_caption (.inl (by omega))
  have after : g.stretch (3 + label.length) 3 0 = List.replicate 3 ' ' :=
    Grid.stretch_eq_replicate fun i inside => shown.blank_beside_caption (.inr (by omega))
  rw [Grid.row_eq_stretch, width, Grid.stretch_add, Grid.stretch_add, Nat.zero_add, Nat.zero_add,
    before, after]

theorem ShownBy.track_of_caption (shown : ShownBy ⟨.caption label⟩ g) :
    g.row 1 = '╟' :: (List.replicate (label.length + 4) '─' ++ ['╢']) := by
  have width : g.width = 1 + (label.length + 4) + 1 := by
    rw [shown.size.1, Nat.add_comm 1]; rfl
  have start : g.stretch 0 1 1 = ['╟'] := congrArg ([·]) shown.start
  have stop : g.stretch (1 + (label.length + 4)) 1 1 = ['╢'] := by
    rw [Nat.add_comm 1]
    exact congrArg ([·]) shown.stop
  have track : g.stretch 1 (label.length + 4) 1 = List.replicate (label.length + 4) '─' := by
    refine Grid.stretch_eq_replicate fun i inside => ?_
    -- the caption's own track, and on either side the column that leads to a marker
    by_cases lead : i = 0 ∨ i = label.length + 3
    · exact shown.lead (by simp only [Plan.width, Figure.width]; omega)
    · have level := (shown.caption .self rfl).track (1 + i) (by simp only [Plan.root]; omega)
        (by rw [(Placed.caption_size rfl).1]; simp only [Plan.root]; omega)
      have has : (Plan.mk (.caption label)).area.Has (1 + i) 1 :=
        ⟨Nat.zero_le _, show 1 + i < label.length + 6 by omega, Nat.zero_le _, Nat.one_lt_two⟩
      exact shown.glyph_of_get has level
  rw [Grid.row_eq_stretch, width, Grid.stretch_add, Grid.stretch_add, Nat.zero_add, Nat.zero_add,
    start, track, stop, List.singleton_append, List.cons_append]

theorem ShownBy.lines_of_caption {c : Char} (shown : ShownBy ⟨.caption label⟩ g)
    (last : (g.stretch 3 label.length 0).getLast? = some c) (seen : c ≠ ' ') :
    g.line 0 = List.replicate 3 ' ' ++ g.stretch 3 label.length 0 ∧
      g.line 1 = '╟' :: (List.replicate (label.length + 4) '─' ++ ['╢']) := by
  constructor
  · rw [Grid.line, shown.row_of_caption, Text.dropTrailing_append (by simp),
      Text.dropTrailing_eq_self]
    intro d final
    rw [List.getLast?_append, last] at final
    cases final
    exact decide_eq_false seen
  · rw [Grid.line, shown.track_of_caption, Text.dropTrailing_eq_self]
    intro d final
    rw [← List.cons_append, List.getLast?_concat] at final
    cases final
    rfl

theorem ShownBy.captionLines (shown : ShownBy ⟨.caption label⟩ g)
    (last : ∃ c, label.toList.getLast? = some c ∧ c ≠ ' ' ∧ Edges.ofChar? c = none) :
    CaptionLines label (g.stretch 3 label.length 0) [g.line 0, g.line 1] := by
  obtain ⟨c, final, seen, plain⟩ := last
  have inside {i : Nat} {d : Char} (found : label.toList[i]? = some d) :
      (g.stretch 3 label.length 0)[i]? = some (g.glyph (3 + i) 0) :=
    Grid.getElem?_stretch (Text.lt_length_of_getElem? found)
  have text : ∀ (i : Nat) (d : Char), label.toList[i]? = some d → Edges.ofChar? d = none →
      (g.stretch 3 label.length 0)[i]? = some d := by
    intro i d found text
    rw [inside found]
    exact congrArg some (Grid.glyph_of_text
      (shown.cell_of_text text (drawsOnly_of_caption .self rfl found)))
  constructor
  case two =>
    -- trimming stops at the label's last character, which is shown as it is and no blank
    have ends : (g.stretch 3 label.length 0).getLast? = some c := by
      rw [List.getLast?_eq_getElem?, String.length_toList] at final
      rw [List.getLast?_eq_getElem?, Grid.length_stretch]
      exact text _ c final plain
    obtain ⟨above, track⟩ := shown.lines_of_caption ends seen
    rw [above, track]
  case length => exact Grid.length_stretch
  case text => exact text
  case line =>
    intro i d found line
    obtain ⟨e, drawn⟩ := Option.ne_none_iff_exists'.mp line
    have edges : g.edges (3 + i) 0 = e :=
      shown.edges_of_line drawn (drawsOnly_of_caption .self rfl found)
    exact ⟨_, inside found, Grid.ofChar?_glyph (edges ▸ Edges.ne_none_of_ofChar? drawn)⟩

end Plan

namespace Diagram

variable {style : Style} {name : String}

theorem text_of_caption {g : Grid} (ok : (Plan.ofDiagram style (.missing name)).drawn = .ok g)
    (shown : Plan.ShownBy ⟨.caption (style.missingLabel name)⟩ g) :
    ∃ text, Diagram.text style (.missing name) = .ok text ∧
      text.toList.splitOn '\n' = [g.line 0, g.line 1] := by
  refine ⟨g.trimmedText, by rw [Diagram.text, Plan.text, ok]; rfl, ?_⟩
  have plain : ∀ label ∈ (Figure.caption (style.missingLabel name)).texts,
      '\n' ∉ label.toList := by
    intro label mem
    rw [List.mem_singleton.mp mem]
    exact Style.newline_not_mem_missingLabel
  obtain ⟨x, inside, inked⟩ := shown.bottom_inked
  have rows : g.trimmedRows = [g.line 0, g.line 1] := by
    rw [Grid.trimmedRows_of_inked inside inked, shown.size.2]
    rfl
  rw [Grid.trimmedText, rows, Grid.splitOn_linesText (by simp)]
  intro line mem
  simp only [List.mem_cons, List.not_mem_nil, or_false] at mem
  rcases mem with rfl | rfl <;>
    exact Grid.newline_not_mem_line fun column _ => shown.glyph_ne_newline plain column _

end Diagram

-- corners that stand side by side in the name join, and its line end is escaped
example : (Diagram.text {} (.missing "└┘\n")).toOption =
    some "   no definition for `──\\n`\n╟────────────────────────────╢" := by decide +kernel

end Trackplan
