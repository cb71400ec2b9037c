import Trackplan.Proofs.Bounds

/-! Where the marks in the rectangle of a figure come from. The figure itself makes them, but for
the track that reaches its first or last cell; text in particular is never written by another
figure, so cells between the parts and at their edges stay clear of it. -/
namespace Trackplan

namespace Placed

variable {whole p q r : Placed} {m : Mark} {s : Stroke} {columns : Nat}

def marks (p : Placed) (columns : Nat) : List Mark := p.strokes.flatMap (·.plainMarks columns)

theorem mem_marks : m ∈ p.marks columns ↔
    (∃ s, p.Own s ∧ m ∈ s.plainMarks columns) ∨ ∃ q ∈ p.parts, m ∈ q.marks columns := by
  simp only [marks, List.mem_flatMap]
  constructor
  · rintro ⟨s, drawn, marked⟩
    rcases mem_strokes.mp drawn with own | ⟨q, part, drawn⟩
    · exact .inl ⟨s, own, marked⟩
    · exact .inr ⟨q, part, s, drawn, marked⟩
  · rintro (⟨s, own, marked⟩ | ⟨q, part, s, drawn, marked⟩)
    · exact ⟨s, mem_strokes.mpr (.inl own), marked⟩
    · exact ⟨s, mem_strokes.mpr (.inr ⟨q, part, drawn⟩), marked⟩

theorem has_of_mem_marks (marked : m ∈ p.marks columns) : p.area.Has m.x m.y := by
  obtain ⟨s, drawn, marked⟩ := List.mem_flatMap.mp marked
  exact (p.strokes_within s drawn).has_mark marked

theorem Holds.mem_marks (held : whole.Holds p) (marked : m ∈ p.marks columns) :
    m ∈ whole.marks columns := by
  obtain ⟨s, drawn, marked⟩ := List.mem_flatMap.mp marked
  exact List.mem_flatMap.mpr ⟨s, held.mem_strokes drawn, marked⟩

theorem row_or_rails (part : q ∈ p.parts) :
    (∃ first rest, p.figure = .sequence first rest) ∨ p.figure.Railed := by
  cases h : p.figure with
  | box | caption | track => simp [parts, h, Figure.children] at part
  | sequence first rest => exact .inl ⟨first, rest, rfl⟩
  | branch | loop => exact .inr trivial

theorem apart_or_eq (hq : q ∈ p.parts) (hr : r ∈ p.parts) : q = r ∨ q.area.Apart r.area := by
  have apart : p.parts.Pairwise (fun q r => q.area.Apart r.area) := by
    rcases row_or_rails hq with ⟨first, rest, h⟩ | railed
    · exact (row h).apart
    · exact (stack railed).apart
  rcases Neighbours.either_before apart hq hr with eq | apart | apart
  · exact .inl eq
  · exact .inr apart
  · exact .inr apart.symm

theorem eq_of_has {x y : Nat} (hq : q ∈ p.parts) (hr : r ∈ p.parts) (hasq : q.area.Has x y)
    (hasr : r.area.Has x y) : q = r := by
  rcases apart_or_eq hq hr with eq | apart
  · exact eq
  · exact absurd hasr (apart x y hasq)

/-- A piece of track in the first or last cell of a figure's track. -/
def TrackEnd (p : Placed) (m : Mark) : Prop :=
  m.c = '─' ∧ m.y = p.trackRow ∧ (m.x = p.x ∨ m.x + 1 = p.endCol)

theorem bodyTrack {body back : Figure} (h : p.figure = .loop body back)
    (head : p.parts.head? = some q) : q.trackRow = p.trackRow := by
  obtain ⟨x, y, f⟩ := p
  cases h
  cases head
  rfl

/-- Between rails, a cell on the row of a part but outside it lies in no other part. -/
theorem edge_of_row {x : Nat} (railed : p.figure.Railed) (hq : q ∈ p.parts) (hr : r ∈ p.parts)
    (outside : x ≤ r.x ∨ r.endCol ≤ x + 1) (has : q.area.Has x r.trackRow) :
    q = r ∧ (x = q.x ∨ x + 1 = q.endCol) := by
  have rows := r.track_inside
  simp only [Area.Has, area] at has
  rcases Neighbours.either_before (stack railed).ordered hq hr with rfl | above | below
  · exact ⟨rfl, by omega⟩
  · omega
  · omega

theorem trackEnd_of_row (railed : p.figure.Railed) (hq : q ∈ p.parts) (hr : r ∈ p.parts)
    (line : m.c = '─') (track : m.y = r.trackRow) (outside : m.x ≤ r.x ∨ r.endCol ≤ m.x + 1)
    (has : q.area.Has m.x m.y) : q.TrackEnd m := by
  obtain ⟨rfl, edge⟩ := edge_of_row railed hq hr outside (track ▸ has)
  exact ⟨line, track, edge⟩

/-- The track of a figure meets its parts in their first or last cell. -/
theorem trackEnd_of_own (own : p.Own s) (marked : m ∈ s.plainMarks columns) (part : q ∈ p.parts)
    (has : q.area.Has m.x m.y) : q.TrackEnd m := by
  have inside := has
  simp only [Area.Has, area] at inside
  cases own with
  | frame h | label h | caption h | shelf h | track h =>
    simp [parts, h, Figure.children] at part
  | @between _ _ a b h next =>
    obtain ⟨low, high, track, line⟩ := Stroke.mem_acrossMarks.mp marked
    have onTrack := (row h).on_track q part
    have spaced := (row h).spaced a b next
    have acols := a.cols_pos
    refine ⟨line, track.trans onTrack.symm, ?_⟩
    -- only the two items that the gap lies between come near it
    rcases Neighbours.before_or_after (row h).ordered next part with before | rfl | rfl | after
    · simp only [endCol] at *; omega
    · omega
    · omega
    · have := b.cols_pos
      omega
  | rail railed head last column =>
    obtain ⟨here, -⟩ := Stroke.mem_uprightMarks.mp marked
    have free := free_of_rails railed part
    omega
  | @entry above main below h =>
    obtain ⟨low, high, -⟩ := Stroke.mem_acrossMarks.mp marked
    have free := free_of_rails (h ▸ trivial) part
    omega
  | @exit above main below h =>
    obtain ⟨low, high, -⟩ := Stroke.mem_acrossMarks.mp marked
    have free := free_of_rails (h ▸ trivial) part
    omega
  | @lead r joins =>
    obtain ⟨low, high, track, line⟩ := Stroke.mem_acrossMarks.mp marked
    have free := free_of_rails joins.railed joins.part
    exact trackEnd_of_row joins.railed part joins.part line track (.inl (by omega)) has
  | @trail r joins =>
    obtain ⟨low, high, track, line⟩ := Stroke.mem_acrossMarks.mp marked
    have free := free_of_rails joins.railed joins.part
    exact trackEnd_of_row joins.railed part joins.part line track (.inr (by omega)) has
  | @toBody _ _ r h head =>
    obtain ⟨low, high, track, line⟩ := Stroke.mem_acrossMarks.mp marked
    have body := List.mem_of_head? head
    have bounds := part_bounds body
    exact trackEnd_of_row (h ▸ trivial) part body line (track.trans (bodyTrack h head).symm)
      (.inl (by omega)) has
  | @fromBody _ _ r h head =>
    obtain ⟨low, high, track, line⟩ := Stroke.mem_acrossMarks.mp marked
    have body := List.mem_of_head? head
    have bounds := part_bounds body
    exact trackEnd_of_row (h ▸ trivial) part body line (track.trans (bodyTrack h head).symm)
      (.inr (by omega)) has

/-- What is marked in the rectangle of a part comes from that part or reaches an end of its
track, as long as this holds of the whole figure. -/
theorem origin_of_part (origin : m ∈ p.marks columns ∨ p.TrackEnd m) (part : q ∈ p.parts)
    (has : q.area.Has m.x m.y) : m ∈ q.marks columns ∨ q.TrackEnd m := by
  rcases origin with marked | ⟨line, track, column⟩
  · rcases mem_marks.mp marked with ⟨s, own, marked⟩ | ⟨r, other, marked⟩
    · exact .inr (trackEnd_of_own own marked part has)
    · exact .inl (eq_of_has part other has (has_of_mem_marks marked) ▸ marked)
  -- what reaches an end of the whole track reaches a part only in a sequence
  · have bounds := part_bounds part
    simp only [Area.Has, area] at has
    rcases row_or_rails part with ⟨first, rest, h⟩ | railed
    · exact .inr ⟨line, track.trans ((row h).on_track q part).symm, by omega⟩
    · have free := free_of_rails railed part
      omega

/-- Text stands strictly between the first and the last column of a leaf. -/
theorem text_of_own (own : p.Own s) (marked : m ∈ s.plainMarks columns) (text : m.IsText) :
    p.parts = [] ∧ p.x < m.x ∧ m.x + 1 < p.endCol := by
  cases own with
  | label h =>
    obtain ⟨-, after, -, found⟩ := Stroke.mem_writeMarks.mp marked
    have short := (List.getElem?_eq_some_iff.mp found).1
    have width : p.figure.width = _ := congrArg Figure.width h
    simp only [Figure.width, ← String.length_toList] at width
    refine ⟨by rw [parts, h]; rfl, by omega, by simp only [endCol]; omega⟩
  | caption h =>
    obtain ⟨-, after, -, found⟩ := Stroke.mem_writeMarks.mp marked
    have short := (List.getElem?_eq_some_iff.mp found).1
    have width : p.figure.width = _ := congrArg Figure.width h
    simp only [Figure.width, ← String.length_toList] at width
    refine ⟨by rw [parts, h]; rfl, by omega, by simp only [endCol]; omega⟩
  | _ => exact absurd text (Stroke.not_isText marked trivial)

theorem text_inside (p : Placed) :
    ∀ m ∈ p.marks columns, m.IsText → p.x < m.x ∧ m.x + 1 < p.endCol := by
  induction p using Placed.induct with
  | step p ih =>
    intro m marked text
    rcases mem_marks.mp marked with ⟨s, own, marked⟩ | ⟨q, part, marked⟩
    · exact (text_of_own own marked text).2
    · have inside := ih q part m marked text
      have bounds := part_bounds part
      omega

end Placed

namespace Plan

variable {plan : Plan} {p q : Placed} {m : Mark} {x y : Nat}

theorem origin_of_root (marked : m ∈ plan.marks) (has : plan.root.area.Has m.x m.y) :
    m ∈ plan.root.marks plan.width ∨ plan.root.TrackEnd m := by
  have inside := has
  have track := plan.trackRow_root
  have wide := plan.width_eq
  have start : plan.root.x = 2 := rfl
  have cols := plan.root.cols_pos
  simp only [Area.Has, Placed.area] at inside
  obtain ⟨s, drawn, marked⟩ := List.mem_flatMap.mp marked
  simp only [strokes, List.mem_append, List.mem_cons, List.not_mem_nil, or_false] at drawn
  rcases drawn with ((rfl | rfl) | drawn) | rfl | rfl
  · simp only [Stroke.plainMarks, Stroke.marks, List.mem_singleton] at marked
    simp only [marked] at inside; omega
  · obtain ⟨low, high, row, line⟩ := Stroke.mem_acrossMarks.mp marked
    exact .inr ⟨line, row.trans track.symm, by omega⟩
  · exact .inl (List.mem_flatMap.mpr ⟨s, drawn, marked⟩)
  · obtain ⟨low, high, row, line⟩ := Stroke.mem_acrossMarks.mp marked
    exact .inr ⟨line, row.trans track.symm, by omega⟩
  · simp only [Stroke.plainMarks, Stroke.marks, List.mem_singleton] at marked
    simp only [marked] at inside; omega

/-- What is marked in the rectangle of a figure, by whatever stroke of the plan, comes from that
figure or reaches an end of its track. -/
theorem origin (held : plan.root.Holds p) (marked : m ∈ plan.marks)
    (has : p.area.Has m.x m.y) : m ∈ p.marks plan.width ∨ p.TrackEnd m := by
  induction held with
  | self => exact origin_of_root marked has
  | part _ part ih => exact Placed.origin_of_part (ih (has.mono (Placed.part_inside part))) part has

/-- No text is written in the cell. -/
def Clear (plan : Plan) (x y : Nat) : Prop := ∀ m ∈ plan.marks, m.At x y → ¬ m.IsText

theorem text_origin (held : plan.root.Holds p) (marked : m ∈ plan.marks) (text : m.IsText)
    (has : p.area.Has m.x m.y) : m ∈ p.marks plan.width := by
  rcases origin held marked has with own | ⟨line, -⟩
  · exact own
  · rw [Mark.IsText, line] at text
    exact absurd text (by decide)

theorem clear_of_edge (held : plan.root.Holds p) (has : p.area.Has x y)
    (edge : x = p.x ∨ x + 1 = p.endCol) : plan.Clear x y := by
  rintro m marked ⟨rfl, rfl⟩ text
  have inside := p.text_inside m (text_origin held marked text has) text
  omega

/-- A figure with parts writes nothing itself, so between its parts there is no text. -/
theorem clear_of_between (held : plan.root.Holds p) (nonempty : p.parts ≠ [])
    (has : p.area.Has x y)
    (edge : ∀ q ∈ p.parts, q.area.Has x y → x = q.x ∨ x + 1 = q.endCol) : plan.Clear x y := by
  rintro m marked ⟨rfl, rfl⟩ text
  rcases Placed.mem_marks.mp (text_origin held marked text has) with
    ⟨s, own, marked⟩ | ⟨q, part, marked⟩
  · exact nonempty (Placed.text_of_own own marked text).1
  · have inside := q.text_inside m marked text
    have := edge q part (Placed.has_of_mem_marks marked)
    omega

end Plan

end Trackplan
