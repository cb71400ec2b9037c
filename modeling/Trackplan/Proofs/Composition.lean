import Trackplan.Drawing
import Trackplan.Proofs.Arrangement

/-! What a drawing is made of. The strokes of a figure are the strokes of its parts and its own:
the frame and text of a leaf, the track between items, the rails and the track to and from them. -/
namespace Trackplan.Placed

def strokes (p : Placed) : List Stroke := p.figure.strokes p.x p.y

/-- A part is joined to both rails: any path of a branch, and the way back of a loop. The body of
a loop has its track lead through the rails instead. -/
inductive Joins (p q : Placed) : Prop
  | path {above main below} : p.figure = .branch above main below → q ∈ p.parts → Joins p q
  | back {body back} : p.figure = .loop body back → p.parts.getLast? = some q → Joins p q

theorem Joins.railed {p q : Placed} (joins : p.Joins q) : p.figure.Railed := by
  cases joins with
  | path h | back h => rw [h]; trivial

theorem Joins.part {p q : Placed} (joins : p.Joins q) : q ∈ p.parts := by
  cases joins with
  | path h part => exact part
  | back h last => exact List.mem_of_getLast? last

/-- The strokes of a figure that belong to none of its parts. -/
inductive Own (p : Placed) : Stroke → Prop
  | frame {shape label} : p.figure = .box shape label →
      Own p (.frame p.x p.y p.figure.width p.figure.height)
  | label {shape label} : p.figure = .box shape label →
      Own p (.write (p.x + 2) p.trackRow label)
  | caption {text} : p.figure = .caption text → Own p (.write (p.x + 1) p.y text)
  | shelf {text} : p.figure = .caption text → Own p (.across p.x (p.endCol - 1) p.trackRow)
  | track {length} : p.figure = .track length → Own p (.across p.x (p.endCol - 1) p.trackRow)
  | between {first rest a b} : p.figure = .sequence first rest → [a, b] <:+: p.parts →
      Own p (.across (a.endCol - 1) b.x p.trackRow)
  | rail {a b x} : p.figure.Railed → p.parts.head? = some a → p.parts.getLast? = some b →
      x = p.x + 1 ∨ x = p.endCol - 2 → Own p (.upright x a.trackRow b.trackRow)
  | entry {above main below} : p.figure = .branch above main below →
      Own p (.across p.x (p.x + 1) p.trackRow)
  | exit {above main below} : p.figure = .branch above main below →
      Own p (.across (p.endCol - 2) (p.endCol - 1) p.trackRow)
  | lead {q} : p.Joins q → Own p (.across (p.x + 1) q.x q.trackRow)
  | trail {q} : p.Joins q → Own p (.across (q.endCol - 1) (p.endCol - 2) q.trackRow)
  | toBody {body back q} : p.figure = .loop body back → p.parts.head? = some q →
      Own p (.across p.x q.x p.trackRow)
  | fromBody {body back q} : p.figure = .loop body back → p.parts.head? = some q →
      Own p (.across (q.endCol - 1) (p.endCol - 1) p.trackRow)

end Trackplan.Placed

namespace Trackplan.Figure

theorem inRow_shifted {track : Nat} {fs : List Figure} (rises : ∀ f ∈ fs, f.rise ≤ track)
    (dx dy x : Nat) :
    (inRow track x fs).map (·.shifted dx dy) = inRow (dy + track) (dx + x) fs := by
  induction fs generalizing x with
  | nil => rfl
  | cons f rest ih =>
    have lifted : dy + (track - f.rise) = dy + track - f.rise :=
      (Nat.add_sub_assoc (rises f (by simp)) dy).symm
    simp only [inRow, List.map_cons, ih (fun g mem => rises g (List.mem_cons_of_mem _ mem))]
    simp only [Placed.shifted, lifted, Nat.add_assoc]

/-- The strokes after an item: the tracks between neighbours, and the items that follow. -/
theorem mem_rowStrokes {track : Nat} {s : Stroke} (before : Placed) (fs : List Figure) :
    s ∈ rowStrokes track before.endCol fs ↔
      (∃ a b, [a, b] <:+: before :: inRow track (before.endCol + gap) fs ∧
        s = .across (a.endCol - 1) b.x track) ∨
      ∃ q ∈ inRow track (before.endCol + gap) fs, s ∈ q.strokes := by
  induction fs generalizing before with
  | nil => simp [rowStrokes, inRow, Neighbours.cons_iff]
  | cons f rest ih =>
    let q : Placed := ⟨before.endCol + gap, track - f.rise, f⟩
    have drawn : s ∈ rowStrokes track before.endCol (f :: rest) ↔
        s = .across (before.endCol - 1) q.x track ∨ s ∈ q.strokes ∨
          s ∈ rowStrokes track q.endCol rest := by
      simp only [rowStrokes, List.mem_cons, List.mem_append]; rfl
    have placed : inRow track (before.endCol + gap) (f :: rest) =
        q :: inRow track (q.endCol + gap) rest := rfl
    rw [drawn, placed, ih q]
    simp only [Neighbours.cons_iff (c := before), List.head?_cons, Option.some.injEq,
      List.mem_cons, exists_eq_or_imp]
    constructor
    · rintro (rfl | own | ⟨a, b, next, rfl⟩ | part)
      · exact .inl ⟨before, q, .inl ⟨rfl, rfl⟩, rfl⟩
      · exact .inr (.inl own)
      · exact .inl ⟨a, b, .inr next, rfl⟩
      · exact .inr (.inr part)
    · rintro (⟨a, b, ⟨rfl, rfl⟩ | next, rfl⟩ | own | part)
      · exact .inl rfl
      · exact .inr (.inr (.inl ⟨a, b, next, rfl⟩))
      · exact .inr (.inl own)
      · exact .inr (.inr (.inr part))

theorem mem_joined {left right x row : Nat} {part : Figure} {strokes : List Stroke} {s : Stroke} :
    s ∈ joined left right x row part strokes ↔
      s = .across left x row ∨ s = .across (x + part.width - 1) right row ∨ s ∈ strokes := by
  simp only [joined, List.cons_append, List.mem_cons, List.mem_append, List.not_mem_nil, or_false]
  exact or_congr_right or_comm

/-- The strokes of a stack: every path, and the track to and from it. -/
theorem mem_stackStrokes {x right dy : Nat} {s : Stroke} (y : Nat) (fs : List Figure) :
    s ∈ stackStrokes x right (dy + y) fs ↔
      ∃ q ∈ (inStack y fs).map (·.shifted x dy), s = .across (x + 1) q.x q.trackRow ∨
        s = .across (q.endCol - 1) right q.trackRow ∨ s ∈ q.strokes := by
  induction fs generalizing y with
  | nil => simp [stackStrokes, inStack]
  | cons f rest ih =>
    simp only [stackStrokes, inStack, List.map_cons, List.mem_append, List.mem_cons, exists_eq_or_imp,
      mem_joined, Nat.add_assoc dy y f.height, ih]
    rfl

theorem stackStrokes_append (x right y : Nat) (fs gs : List Figure) :
    stackStrokes x right y (fs ++ gs) =
      stackStrokes x right y fs ++ stackStrokes x right (y + stacked fs) gs := by
  induction fs generalizing y with
  | nil => simp [stackStrokes, stacked]
  | cons f rest ih => simp [stackStrokes, ih, stacked_cons, Nat.add_assoc]

theorem firstTrack_of_branch {above below : List Figure} {main : Figure} {p : Placed}
    (head : p ∈ (Figure.branch above main below).children.head?) :
    p.trackRow = (above.headD main).rise := by
  cases above <;> simp_all [children, inStack, Placed.trackRow, eq_comm]

theorem lastTrack_of_branch {above below : List Figure} {main : Figure} {p : Placed}
    (last : p ∈ (Figure.branch above main below).children.getLast?) :
    p.trackRow = lastTrack above main below := by
  have figure : some p.figure = (above ++ main :: below).getLast? := by
    rw [← figures_inStack 0 (above ++ main :: below), List.getLast?_map]
    exact (congrArg (Option.map Placed.figure) last).symm
  have path : below.getLastD main = p.figure := by
    simpa [List.getLast?_cons, eq_comm] using figure
  have ends := (stack_of_branch above main below).ends p last
  simp only [lastTrack, path, Placed.trackRow, Placed.endRow, area, height] at *
  omega

end Trackplan.Figure

namespace Trackplan.Placed

variable {x y : Nat} {s : Stroke}

theorem lastCol_eq (p : Placed) : p.endCol - 1 = p.x + p.figure.exitCol := by
  have := p.figure.width_pos
  simp only [endCol, Figure.exitCol]; omega

theorem mem_strokes_box {shape : Figure.Shape} {label : String} :
    s ∈ strokes ⟨x, y, .box shape label⟩ ↔ Own ⟨x, y, .box shape label⟩ s := by
  constructor
  · intro drawn
    simp only [strokes, Figure.strokes, List.mem_cons, List.not_mem_nil, or_false] at drawn
    rcases drawn with rfl | rfl
    · exact .frame rfl
    · exact .label rfl
  · intro own
    cases own with
    | lead joins | trail joins => cases joins.railed
    | _ => simp_all [strokes, Figure.strokes, trackRow, Figure.Railed]

theorem mem_strokes_caption {text : String} :
    s ∈ strokes ⟨x, y, .caption text⟩ ↔ Own ⟨x, y, .caption text⟩ s := by
  constructor
  · intro drawn
    simp only [strokes, Figure.strokes, List.mem_cons, List.not_mem_nil, or_false] at drawn
    rcases drawn with rfl | rfl
    · exact .caption rfl
    · exact lastCol_eq ⟨x, y, .caption text⟩ ▸ .shelf rfl
  · intro own
    cases own with
    | lead joins | trail joins => cases joins.railed
    | _ => simp_all [strokes, Figure.strokes, trackRow, lastCol_eq, Figure.Railed]

theorem mem_strokes_track {length : Nat} :
    s ∈ strokes ⟨x, y, .track length⟩ ↔ Own ⟨x, y, .track length⟩ s := by
  constructor
  · intro drawn
    simp only [strokes, Figure.strokes, List.mem_cons, List.not_mem_nil, or_false] at drawn
    subst drawn
    exact lastCol_eq ⟨x, y, .track length⟩ ▸ .track rfl
  · intro own
    cases own with
    | lead joins | trail joins => cases joins.railed
    | _ => simp_all [strokes, Figure.strokes, trackRow, Figure.rise, lastCol_eq, Figure.Railed]

theorem mem_strokes_sequence {first : Figure} {rest : List Figure} :
    s ∈ strokes ⟨x, y, .sequence first rest⟩ ↔
      Own ⟨x, y, .sequence first rest⟩ s ∨
        ∃ q ∈ parts ⟨x, y, .sequence first rest⟩, s ∈ q.strokes := by
  let p : Placed := ⟨x, y, .sequence first rest⟩
  let q : Placed := ⟨x, p.trackRow - first.rise, first⟩
  have placed : p.parts = q :: Figure.inRow p.trackRow (q.endCol + Figure.gap) rest := by
    have := Figure.inRow_shifted (fun f (mem : f ∈ first :: rest) => Figure.rise_le_of_mem mem) x y 0
    rw [Nat.add_zero] at this
    exact this
  have drawn : s ∈ p.strokes ↔ s ∈ q.strokes ∨ s ∈ Figure.rowStrokes p.trackRow q.endCol rest := by
    simp only [strokes, p, Figure.strokes, List.mem_append]; rfl
  have own : p.Own s ↔ ∃ a b, [a, b] <:+: p.parts ∧ s = .across (a.endCol - 1) b.x p.trackRow := by
    constructor
    · intro own
      cases own with
      | between h next => exact ⟨_, _, next, rfl⟩
      | rail railed => cases railed
      | lead joins | trail joins => cases joins.railed
      | _ => contradiction
    · rintro ⟨a, b, next, rfl⟩
      exact .between rfl next
  have items : (∃ r ∈ p.parts, s ∈ r.strokes) ↔ s ∈ q.strokes ∨
      ∃ r ∈ Figure.inRow p.trackRow (q.endCol + Figure.gap) rest, s ∈ r.strokes := by
    rw [placed]; simp only [List.mem_cons, exists_eq_or_imp]
  rw [drawn, Figure.mem_rowStrokes q rest, ← placed, own, items]
  exact or_left_comm

/-- The first and the last path of a branch, with the rows between which its rails run. -/
theorem ends_of_branch (x y : Nat) (above : List Figure) (main : Figure) (below : List Figure) :
    ∃ a b, (parts ⟨x, y, .branch above main below⟩).head? = some a ∧
      (parts ⟨x, y, .branch above main below⟩).getLast? = some b ∧
      y + (above.headD main).rise = a.trackRow ∧
      y + Figure.lastTrack above main below = b.trackRow := by
  have nonempty : Figure.children (.branch above main below) ≠ [] :=
    (Figure.stack_of_branch above main below).nonempty
  refine ⟨(List.head _ nonempty).shifted x y, (List.getLast _ nonempty).shifted x y, ?_, ?_, ?_, ?_⟩
  · rw [parts, List.head?_map, List.head?_eq_some_head nonempty]; rfl
  · rw [parts, List.getLast?_map, List.getLast?_eq_some_getLast nonempty]; rfl
  · rw [trackRow_shifted, Figure.firstTrack_of_branch (List.head?_eq_some_head nonempty)]
  · rw [trackRow_shifted, Figure.lastTrack_of_branch (List.getLast?_eq_some_getLast nonempty)]

theorem strokes_branch (x y : Nat) (above : List Figure) (main : Figure) (below : List Figure) :
    let p : Placed := ⟨x, y, .branch above main below⟩
    p.strokes = [.across x (x + 1) p.trackRow, .across (p.endCol - 2) (p.endCol - 1) p.trackRow,
      .upright (x + 1) (y + (above.headD main).rise) (y + Figure.lastTrack above main below),
      .upright (p.endCol - 2) (y + (above.headD main).rise)
        (y + Figure.lastTrack above main below)] ++
      Figure.stackStrokes x (p.endCol - 2) y (above ++ main :: below) := by
  intro p
  have last : x + p.figure.exitCol = p.endCol - 1 := (lastCol_eq p).symm
  have right : p.endCol - 2 = x + p.figure.exitCol - 1 := by rw [last]; rfl
  rw [right, ← last, Figure.stackStrokes_append]
  simp only [p, strokes, Figure.strokes, Figure.stackStrokes, List.append_assoc]
  rfl

theorem mem_strokes_branch {above below : List Figure} {main : Figure} :
    s ∈ strokes ⟨x, y, .branch above main below⟩ ↔
      Own ⟨x, y, .branch above main below⟩ s ∨
        ∃ q ∈ parts ⟨x, y, .branch above main below⟩, s ∈ q.strokes := by
  have stacked : s ∈ Figure.stackStrokes x (endCol ⟨x, y, .branch above main below⟩ - 2) y
      (above ++ main :: below) ↔ ∃ q ∈ parts ⟨x, y, .branch above main below⟩,
        s = .across (x + 1) q.x q.trackRow ∨
        s = .across (q.endCol - 1) (endCol ⟨x, y, .branch above main below⟩ - 2) q.trackRow ∨
        s ∈ q.strokes :=
    Figure.mem_stackStrokes 0 (above ++ main :: below)
  obtain ⟨a, b, head, last, top, bottom⟩ := ends_of_branch x y above main below
  rw [strokes_branch, top, bottom]
  simp only [List.mem_append, List.mem_cons, List.not_mem_nil, or_false, stacked]
  constructor
  · rintro ((rfl | rfl | rfl | rfl) | ⟨q, part, rfl | rfl | drawn⟩)
    · exact .inl (.entry rfl)
    · exact .inl (.exit rfl)
    · exact .inl (.rail trivial head last (.inl rfl))
    · exact .inl (.rail trivial head last (.inr rfl))
    · exact .inl (.lead (.path rfl part))
    · exact .inl (.trail (.path rfl part))
    · exact .inr ⟨q, part, drawn⟩
  · rintro (own | ⟨q, part, drawn⟩)
    · cases own with
      | rail railed head' last' column =>
        rw [head] at head'; rw [last] at last'
        cases head'; cases last'
        rcases column with rfl | rfl
        · exact .inl (.inr (.inr (.inl rfl)))
        · exact .inl (.inr (.inr (.inr rfl)))
      | entry => exact .inl (.inl rfl)
      | exit => exact .inl (.inr (.inl rfl))
      | lead joins => exact .inr ⟨_, joins.part, .inl rfl⟩
      | trail joins => exact .inr ⟨_, joins.part, .inr (.inl rfl)⟩
      | _ => contradiction
    · exact .inr ⟨q, part, .inr (.inr drawn)⟩

theorem mem_strokes_loop {body back : Figure} :
    s ∈ strokes ⟨x, y, .loop body back⟩ ↔
      Own ⟨x, y, .loop body back⟩ s ∨ ∃ q ∈ parts ⟨x, y, .loop body back⟩, s ∈ q.strokes := by
  let p : Placed := ⟨x, y, .loop body back⟩
  let q : Placed := ⟨x + Figure.inset, y, body⟩
  let r : Placed := ⟨x + Figure.backCol body back, y + body.height, back⟩
  have last : x + p.figure.exitCol = p.endCol - 1 := (lastCol_eq p).symm
  have right : p.endCol - 1 - 1 = p.endCol - 2 := rfl
  have placed : p.parts = [q, r] := rfl
  have drawn : p.strokes = (.across x q.x p.trackRow :: q.strokes ++
        [.across (q.endCol - 1) (p.endCol - 1) p.trackRow]) ++
      [.upright (x + 1) q.trackRow r.trackRow, .upright (p.endCol - 2) q.trackRow r.trackRow] ++
      (.across (x + 1) r.x r.trackRow :: r.strokes ++
        [.across (r.endCol - 1) (p.endCol - 2) r.trackRow]) := by
    rw [← right, ← last]
    simp only [p, strokes, Figure.strokes, Figure.joined]
    rfl
  have parts : (∃ t ∈ p.parts, s ∈ t.strokes) ↔ s ∈ q.strokes ∨ s ∈ r.strokes := by
    rw [placed]; simp
  change s ∈ p.strokes ↔ p.Own s ∨ ∃ t ∈ p.parts, s ∈ t.strokes
  rw [drawn, parts]
  simp only [List.mem_append, List.mem_cons, List.not_mem_nil, or_false]
  constructor
  · rintro ((((rfl | body) | rfl) | rfl | rfl) | (rfl | back) | rfl)
    · exact .inl (.toBody rfl rfl)
    · exact .inr (.inl body)
    · exact .inl (.fromBody rfl rfl)
    · exact .inl (.rail trivial rfl rfl (.inl rfl))
    · exact .inl (.rail trivial rfl rfl (.inr rfl))
    · exact .inl (.lead (.back rfl rfl))
    · exact .inr (.inr back)
    · exact .inl (.trail (.back rfl rfl))
  · rintro (own | body | back)
    · cases own with
      | rail railed head last column =>
        cases head; cases last
        rcases column with rfl | rfl
        · exact .inl (.inr (.inl rfl))
        · exact .inl (.inr (.inr rfl))
      | toBody h head => cases head; exact .inl (.inl (.inl (.inl rfl)))
      | fromBody h head => cases head; exact .inl (.inl (.inr rfl))
      | lead joins =>
        cases joins with
        | path h => cases h
        | back h last => cases last; exact .inr (.inl (.inl rfl))
      | trail joins =>
        cases joins with
        | path h => cases h
        | back h last => cases last; exact .inr (.inr rfl)
      | _ => contradiction
    · exact .inl (.inl (.inl (.inr body)))
    · exact .inr (.inl (.inr back))

/-- Everything that is drawn of a figure is its own or belongs to a part. -/
theorem mem_strokes {p : Placed} : s ∈ p.strokes ↔ p.Own s ∨ ∃ q ∈ p.parts, s ∈ q.strokes := by
  obtain ⟨x, y, f⟩ := p
  cases f with
  | box => simp [mem_strokes_box, parts, Figure.children]
  | caption => simp [mem_strokes_caption, parts, Figure.children]
  | track => simp [mem_strokes_track, parts, Figure.children]
  | sequence => exact mem_strokes_sequence
  | branch => exact mem_strokes_branch
  | loop => exact mem_strokes_loop

/-- What follows for a figure from its parts holds of every figure. -/
@[elab_as_elim]
theorem induct {P : Placed → Prop} (step : ∀ p, (∀ q ∈ p.parts, P q) → P p) (p : Placed) : P p := by
  obtain ⟨x, y, f⟩ := p
  induction f using Figure.induct generalizing x y with
  | box | caption | track => exact step _ fun q part => nomatch part
  | sequence first rest ihFirst ihRest =>
    have items : ∀ f ∈ first :: rest, ∀ x y, P ⟨x, y, f⟩ :=
      List.forall_mem_cons.mpr ⟨ihFirst, ihRest⟩
    refine step _ fun q part => ?_
    obtain ⟨c, child, rfl⟩ := List.mem_map.mp part
    exact items _ (Figure.mem_inRow child).1 _ _
  | branch above main below ihAbove ihMain ihBelow =>
    have paths : ∀ f ∈ above ++ main :: below, ∀ x y, P ⟨x, y, f⟩ :=
      List.forall_mem_append.mpr ⟨ihAbove, List.forall_mem_cons.mpr ⟨ihMain, ihBelow⟩⟩
    refine step _ fun q part => ?_
    obtain ⟨c, child, rfl⟩ := List.mem_map.mp part
    exact paths _ (Figure.mem_inStack child).1 _ _
  | loop body back ihBody ihBack =>
    refine step _ fun q part => ?_
    obtain ⟨c, child, rfl⟩ := List.mem_map.mp part
    simp only [Figure.children, List.mem_cons, List.not_mem_nil, or_false] at child
    rcases child with rfl | rfl
    · exact ihBody _ _
    · exact ihBack _ _

theorem Holds.mem_strokes {whole p : Placed} (held : whole.Holds p) (drawn : s ∈ p.strokes) :
    s ∈ whole.strokes := by
  induction held with
  | self => exact drawn
  | part _ part ih => exact ih (Placed.mem_strokes.mpr (.inr ⟨_, part, drawn⟩))

end Trackplan.Placed
