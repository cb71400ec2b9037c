import Trackplan.Proofs.Continuity

/-! What links the paths of a branch or loop besides its rails. A rail is drawn as a line with both
its ends, so where a rail inside one path ends right above a rail inside the next, the two cells
are linked; in any other place neighbouring paths stay apart. -/
namespace Trackplan

/-- No character of the text is a line. -/
def Text.LineFree (text : String) : Prop := ∀ c ∈ text.toList, Edges.ofChar? c = none

instance (text : String) : Decidable (Text.LineFree text) :=
  decidable_of_iff (text.toList.all fun c => (Edges.ofChar? c).isNone) (by simp [Text.LineFree])

namespace Figure

mutual

/-- All labels and captions, in the order in which they are drawn. -/
def texts : Figure → List String
  | .box _ label => [label]
  | .caption text => [text]
  | .track _ => []
  | .sequence first rest => texts first ++ textsAll rest
  | .branch above main below => textsAll above ++ (texts main ++ textsAll below)
  | .loop body back => texts body ++ texts back

def textsAll : List Figure → List String
  | [] => []
  | f :: rest => texts f ++ textsAll rest

end

theorem textsAll_append (fs gs : List Figure) :
    textsAll (fs ++ gs) = textsAll fs ++ textsAll gs := by
  induction fs with
  | nil => rfl
  | cons f rest ih => simp only [List.cons_append, textsAll, ih, List.append_assoc]

theorem mem_textsAll {f : Figure} {fs : List Figure} {text : String} (mem : f ∈ fs)
    (shown : text ∈ f.texts) : text ∈ textsAll fs := by
  induction fs with
  | nil => cases mem
  | cons g rest ih =>
    rw [textsAll, List.mem_append]
    rcases List.mem_cons.mp mem with rfl | mem
    · exact .inl shown
    · exact .inr (ih mem)

theorem mem_texts_of_child {f : Figure} {c : Placed} {text : String} (child : c ∈ f.children)
    (shown : text ∈ c.figure.texts) : text ∈ f.texts := by
  cases f with
  | box | caption | track => cases child
  | sequence first rest => exact mem_textsAll (mem_inRow child).1 shown
  | branch above main below =>
    have mem := mem_textsAll (mem_inStack child).1 shown
    rwa [textsAll_append] at mem
  | loop body back =>
    simp only [children, List.mem_cons, List.not_mem_nil, or_false] at child
    rw [texts, List.mem_append]
    rcases child with rfl | rfl
    · exact .inl shown
    · exact .inr shown

end Figure

namespace Placed

variable {whole p q r a b : Placed} {m : Mark} {s : Stroke} {columns x y : Nat}

/-- A rail of the figure runs through the cell. -/
def HasRail (p : Placed) (x y : Nat) : Prop :=
  p.figure.Railed ∧ (x = p.x + 1 ∨ x = p.endCol - 2) ∧
    ∃ a ∈ p.parts.head?, ∃ b ∈ p.parts.getLast?, a.trackRow ≤ y ∧ y ≤ b.trackRow

/-- A rail of the figure, or of a part at any depth, runs through the cell. -/
def OnRail (p : Placed) (x y : Nat) : Prop := ∃ r, p.Holds r ∧ r.HasRail x y

theorem texts_of_part {text : String} (part : q ∈ p.parts) (shown : text ∈ q.figure.texts) :
    text ∈ p.figure.texts := by
  obtain ⟨c, child, rfl⟩ := List.mem_map.mp part
  exact Figure.mem_texts_of_child child shown

theorem texts_of_held {text : String} (held : whole.Holds p) (shown : text ∈ p.figure.texts) :
    text ∈ whole.figure.texts := by
  induction held with
  | self => exact shown
  | part _ part ih => exact ih (texts_of_part part shown)

theorem OnRail.of_part (part : q ∈ p.parts) (on : q.OnRail x y) : p.OnRail x y := by
  obtain ⟨r, held, rail⟩ := on
  exact ⟨r, .trans (.part .self part) held, rail⟩

theorem rails_ordered (railed : p.figure.Railed) (head : a ∈ p.parts.head?)
    (last : b ∈ p.parts.getLast?) : a.trackRow ≤ b.trackRow := by
  obtain ⟨first, found, before⟩ :=
    Neighbours.first_before (stack railed).ordered (List.mem_of_getLast? last)
  obtain rfl : first = a := Option.some.inj (found.symm.trans head)
  have top := first.track_inside
  have bottom := b.track_inside
  rcases before with rfl | before
  · exact Nat.le_refl _
  · omega

/-- The mark reaches neither below the last row nor above the first one. -/
def Enclosed (p : Placed) (m : Mark) : Prop :=
  (m.Reaches .down → m.y + 1 < p.endRow) ∧ (m.Reaches .up → p.y < m.y)

theorem enclosed_of_across (line : m.c = '─') : p.Enclosed m := by
  have drawn : Edges.ofChar? m.c = some .across := line ▸ rfl
  constructor
  · intro down
    exact absurd down (Mark.not_reaches drawn rfl)
  · intro up
    exact absurd up (Mark.not_reaches drawn rfl)

theorem enclosed_of_frame {shape : Figure.Shape} {label : String} (h : p.figure = .box shape label)
    (marked : m ∈ (Stroke.frame p.x p.y p.figure.width p.figure.height).plainMarks columns) :
    p.Enclosed m := by
  have wide : p.figure.width = label.length + 4 := by rw [h, Figure.width]
  have high : p.figure.height = 3 := by rw [h]; rfl
  have thick : Stroke.isThin p.figure.width p.figure.height = false := by
    simp only [Stroke.isThin, wide, high]; simp
  have rows : p.endRow = p.y + 3 := by rw [endRow, high]
  rw [Stroke.plainMarks, if_neg (ne_true_of_eq_false thick), high] at marked
  rcases Stroke.mem_borderMarks.mp marked with
    ⟨-, -, -, line⟩ | ⟨low, high, -⟩ | rfl | rfl | rfl | rfl
  · exact enclosed_of_across line
  · exact ⟨fun _ => by omega, fun _ => low⟩
  -- upper corners reach down only, lower corners up only
  · exact ⟨fun _ => by simp only; omega, fun up => absurd up (Mark.not_reaches rfl rfl)⟩
  · exact ⟨fun _ => by simp only; omega, fun up => absurd up (Mark.not_reaches rfl rfl)⟩
  · exact ⟨fun down => absurd down (Mark.not_reaches rfl rfl), fun _ => by simp only; omega⟩
  · exact ⟨fun down => absurd down (Mark.not_reaches rfl rfl), fun _ => by simp only; omega⟩

theorem enclosed_of_write {column row : Nat} {text : String} (plain : Text.LineFree text)
    (marked : m ∈ (Stroke.write column row text).plainMarks columns) : p.Enclosed m := by
  obtain ⟨-, -, -, found⟩ := Stroke.mem_writeMarks.mp marked
  have text : m.IsText := plain m.c (List.mem_of_getElem? found)
  exact ⟨fun down => absurd text down.not_isText, fun up => absurd text up.not_isText⟩

theorem rail_or_enclosed_of_own (plain : ∀ text ∈ p.figure.texts, Text.LineFree text)
    (own : p.Own s) (marked : m ∈ s.plainMarks columns) : p.HasRail m.x m.y ∨ p.Enclosed m := by
  cases own with
  | rail railed head last column =>
    obtain ⟨here, low, high, -⟩ := Stroke.mem_uprightMarks.mp marked
    have ordered := rails_ordered railed head last
    exact .inl ⟨railed, here ▸ column, _, head, _, last, by omega, by omega⟩
  | frame h => exact .inr (enclosed_of_frame h marked)
  | label h => exact .inr (enclosed_of_write (plain _ (by simp [h, Figure.texts])) marked)
  | caption h => exact .inr (enclosed_of_write (plain _ (by simp [h, Figure.texts])) marked)
  | _ => exact .inr (enclosed_of_across (Stroke.mem_acrossMarks.mp marked).2.2.2)

/-- Only the rails in a figure reach beyond its first and last row. -/
theorem rail_or_enclosed (p : Placed) (plain : ∀ text ∈ p.figure.texts, Text.LineFree text) :
    ∀ m ∈ p.marks columns, p.OnRail m.x m.y ∨ p.Enclosed m := by
  induction p using Placed.induct with
  | step p ih =>
    intro m marked
    rcases mem_marks.mp marked with ⟨s, own, marked⟩ | ⟨q, part, marked⟩
    · exact (rail_or_enclosed_of_own plain own marked).imp_left fun rail => ⟨p, .self, rail⟩
    · have bounds := part_bounds part
      rcases ih q part (fun text shown => plain text (texts_of_part part shown)) m marked with
        on | ⟨down, up⟩
      · exact .inl (on.of_part part)
      · exact .inr ⟨fun reach => Nat.lt_of_lt_of_le (down reach) bounds.2.2.2,
          fun reach => Nat.lt_of_le_of_lt bounds.2.2.1 (up reach)⟩

/-- Between its rails a figure draws nothing of its own but track. -/
theorem across_of_own (railed : p.figure.Railed) (left : p.x + 1 < m.x) (right : m.x + 2 < p.endCol)
    (own : p.Own s) (marked : m ∈ s.plainMarks columns) : m.c = '─' := by
  cases own with
  | rail railed head last column =>
    obtain ⟨here, -⟩ := Stroke.mem_uprightMarks.mp marked
    omega
  | frame h | label h | caption h => rw [h] at railed; cases railed
  | _ => exact (Stroke.mem_acrossMarks.mp marked).2.2.2

end Placed

namespace Plan

variable {plan : Plan} {g : Grid} {p q r a b : Placed} {m : Mark} {x y : Nat}

/-- A cell on a rail carries both the side above and the side below. -/
theorem ShownBy.reach_of_onRail (shown : plan.ShownBy g) (held : plan.root.Holds p)
    (on : p.OnRail x y) : (g.edges x y).up = true ∧ (g.edges x y).down = true := by
  obtain ⟨r, inner, railed, column, a, head, b, last, low, high⟩ := on
  have held := held.trans inner
  have drawn := mem_strokes_of_own held (.rail railed head last column)
  have above := Placed.part_bounds (List.mem_of_head? head)
  have below := Placed.part_bounds (List.mem_of_getLast? last)
  have top := a.track_inside
  have bottom := b.track_inside
  have clear := clear_of_rail held railed column (y := y) (by omega) (by omega)
  exact ⟨shown.reach_of_mark .up clear drawn (Stroke.upright_marks low high) ⟨.upright, rfl, rfl⟩,
    shown.reach_of_mark .down clear drawn (Stroke.upright_marks low high) ⟨.upright, rfl, rfl⟩⟩

/-- Between the rails every line that reaches up or down belongs to a path. -/
theorem mem_marks_of_path (held : plan.root.Holds p) (railed : p.figure.Railed)
    (left : p.x + 1 < m.x) (right : m.x + 2 < p.endCol) (part : q ∈ p.parts)
    (low : q.y ≤ m.y) (high : m.y < q.endRow) (marked : m ∈ plan.marks) (upright : m.c ≠ '─') :
    m ∈ q.marks plan.width := by
  have bounds := Placed.part_bounds part
  have has : p.area.Has m.x m.y := by simp only [Placed.area, Area.Has]; omega
  rcases origin held marked has with marked | ⟨across, -⟩
  -- paths share no row, so the part that made the mark is the one whose row it is in
  · rcases Placed.mem_marks.mp marked with ⟨s, own, marked⟩ | ⟨r, other, marked⟩
    · exact absurd (Placed.across_of_own railed left right own marked) upright
    · have inside := Placed.has_of_mem_marks marked
      simp only [Area.Has, Placed.area] at inside
      rcases Neighbours.either_before (Placed.stack railed).ordered part other with
        rfl | above | below
      · exact marked
      · omega
      · omega
  · exact absurd across upright

/-- A line between the rails that leaves a path at its top or bottom is a rail in that path. -/
theorem onRail_of_open (plain : ∀ text ∈ plan.figure.texts, Text.LineFree text)
    (held : plan.root.Holds p) (railed : p.figure.Railed) (left : p.x + 1 < m.x)
    (right : m.x + 2 < p.endCol) (part : q ∈ p.parts) (low : q.y ≤ m.y) (high : m.y < q.endRow)
    (marked : m ∈ plan.marks) (leaves : ¬ q.Enclosed m) : q.OnRail m.x m.y := by
  have upright : m.c ≠ '─' := fun line => leaves (Placed.enclosed_of_across line)
  have own := mem_marks_of_path held railed left right part low high marked upright
  have plain : ∀ text ∈ q.figure.texts, Text.LineFree text := fun text shown =>
    plain text (Placed.texts_of_held (held.part part) shown)
  exact (q.rail_or_enclosed plain m own).resolve_right leaves

/-- Neighbouring paths are linked between the rails where two rails in them meet end to end. -/
theorem ShownBy.linkedDown_iff (shown : plan.ShownBy g)
    (plain : ∀ text ∈ plan.figure.texts, Text.LineFree text) (held : plan.root.Holds p)
    (railed : p.figure.Railed) (next : [a, b] <:+: p.parts) (left : p.x + 1 < x)
    (right : x + 2 < p.endCol) :
    g.LinkedDown x (a.endRow - 1) ↔ a.OnRail x (a.endRow - 1) ∧ b.OnRail x b.y := by
  have tiled := (Placed.stack railed).tiled a b next
  have top := a.track_inside
  have bottom := b.track_inside
  have below : a.endRow - 1 + 1 = b.y := by omega
  have above := Neighbours.mem_left next
  have under := Neighbours.mem_right next
  rw [Grid.LinkedDown, below]
  constructor
  · rintro ⟨down, up⟩
    constructor
    · obtain ⟨m, marked, ⟨rfl, row⟩, reaches⟩ := shown.mark_of_reach .down down
      rw [← row]
      refine onRail_of_open plain held railed left right above (by omega) (by omega) marked ?_
      intro enclosed
      have := enclosed.1 reaches
      omega
    · obtain ⟨m, marked, ⟨rfl, row⟩, reaches⟩ := shown.mark_of_reach .up up
      rw [← row]
      refine onRail_of_open plain held railed left right under (by omega) (by omega) marked ?_
      intro enclosed
      have := enclosed.2 reaches
      omega
  · rintro ⟨upper, lower⟩
    exact ⟨(shown.reach_of_onRail (held.part above) upper).2,
      (shown.reach_of_onRail (held.part under) lower).1⟩

end Plan

/-- Which cells of neighbouring paths are linked in a drawing, in every column between the rails of
every branch and loop: those where a rail in the upper path reaches the last row of that path and
a rail in the lower one the first row of its own. -/
theorem Diagram.paths_linked_iff (style : Style) (d : Diagram)
    (fits : (Plan.ofDiagram style d).width * (Plan.ofDiagram style d).height < Grid.areaLimit)
    (plain : ∀ text ∈ (Plan.ofDiagram style d).figure.texts, Text.LineFree text) :
    ∃ g, (Plan.ofDiagram style d).drawn = .ok g ∧
      ∀ p, (Plan.ofDiagram style d).root.Holds p → p.figure.Railed →
        ∀ a b, [a, b] <:+: p.parts → ∀ x, p.x + 1 < x → x + 2 < p.endCol →
          (g.LinkedDown x (a.endRow - 1) ↔ a.OnRail x (a.endRow - 1) ∧ b.OnRail x b.y) := by
  obtain ⟨g, ok, shown⟩ := (Plan.ofDiagram style d).drawn_of_fits fits
  exact ⟨g, ok, fun p held railed a b next x left right =>
    shown.linkedDown_iff plain held railed next left right⟩

/-- The way back of a loop, right above the bypass of an optional part. -/
def Diagram.loopOverBypass : Diagram where
  rule := none
  root := .choice [.repetition .one (.terminal ⟨"A", .token⟩) none,
    .optional (.terminal ⟨"B", .token⟩)] 0

theorem Diagram.lineFree_loopOverBypass :
    ∀ text ∈ (Plan.ofDiagram {} .loopOverBypass).figure.texts, Text.LineFree text := by
  have texts : (Plan.ofDiagram {} .loopOverBypass).figure.texts = ["A", "B"] := rfl
  rw [texts]
  decide

theorem Diagram.paths_linked_iff_loopOverBypass :
    ∃ g, (Plan.ofDiagram {} .loopOverBypass).drawn = .ok g ∧
      ∀ p, (Plan.ofDiagram {} .loopOverBypass).root.Holds p → p.figure.Railed →
        ∀ a b, [a, b] <:+: p.parts → ∀ x, p.x + 1 < x → x + 2 < p.endCol →
          (g.LinkedDown x (a.endRow - 1) ↔ a.OnRail x (a.endRow - 1) ∧ b.OnRail x b.y) :=
  Diagram.paths_linked_iff {} .loopOverBypass (by decide) Diagram.lineFree_loopOverBypass

/-- The rails of the loop run into those of the bypass. -/
theorem Diagram.loopOverBypass_linked :
    ∃ g, (Plan.ofDiagram {} .loopOverBypass).drawn = .ok g ∧
      (∀ text ∈ (Plan.ofDiagram {} .loopOverBypass).figure.texts, Text.LineFree text) ∧
      ∃ p a b x, (Plan.ofDiagram {} .loopOverBypass).root.Holds p ∧ p.figure.Railed ∧
        [a, b] <:+: p.parts ∧ p.x + 1 < x ∧ x + 2 < p.endCol ∧
        g.LinkedDown x (a.endRow - 1) := by
  let plan := Plan.ofDiagram {} .loopOverBypass
  let above : Placed := ⟨5, 0, .loop (.box (.terminal .token) "A") (.track 5)⟩
  let below : Placed := ⟨5, 4, .branch [.track 1] (.box (.terminal .token) "B") []⟩
  obtain ⟨g, ok, shown⟩ := plan.drawn_of_fits (by decide)
  have plain : ∀ text ∈ plan.figure.texts, Text.LineFree text := Diagram.lineFree_loopOverBypass
  have next : [above, below] <:+: plan.root.parts := ⟨[], [], rfl⟩
  have upper : above.OnRail 6 3 :=
    ⟨above, .self, trivial, .inl rfl, _, rfl, _, rfl, by decide, by decide⟩
  have lower : below.OnRail 6 4 :=
    ⟨below, .self, trivial, .inl rfl, _, rfl, _, rfl, by decide, by decide⟩
  exact ⟨g, ok, plain, plan.root, above, below, 6, .self, trivial, next, by decide, by decide,
    (shown.linkedDown_iff plain .self trivial next (by decide) (by decide)).mpr ⟨upper, lower⟩⟩

end Trackplan
