import Mathlib.Data.List.DropRight
import Trackplan.Proofs.Glyphs
import Trackplan.Proofs.Traces

/-! A grid after any run of strokes, cell by cell. A cell holds the text that was written in it last
and the sides of all lines drawn in it since; what it shows hangs on the sides of its four
neighbours besides. The order of lines among each other is of no account. -/
namespace Trackplan

/-- Any other character is text. -/
def isLineChar (c : Char) : Bool := (Edges.ofChar? c).isSome

theorem isLineChar_iff {c : Char} : isLineChar c = true ↔ ∃ e, Edges.ofChar? c = some e :=
  Option.isSome_iff_exists

theorem not_isLineChar_iff {c : Char} : ¬ isLineChar c = true ↔ Edges.ofChar? c = none := by
  rw [isLineChar, Option.not_isSome_iff_eq_none]

/-- All sides of the line characters together. -/
def Edges.ofChars (cs : List Char) : Edges := (cs.filterMap ofChar?).foldl union none

theorem Edges.ofChars_concat {cs : List Char} {c : Char} {e : Edges} (line : ofChar? c = some e) :
    ofChars (cs ++ [c]) = (ofChars cs).union e := by
  rw [ofChars, List.filterMap_append, List.filterMap_cons_some line, List.foldl_append]
  rfl

theorem Edges.reach_union {a b : Edges} {side : Side} :
    (a.union b).reach side = true ↔ a.reach side = true ∨ b.reach side = true := by
  cases side <;> exact Bool.or_eq_true_iff

/-- The stroke writes no text. -/
def Stroke.DrawsLines : Stroke → Prop
  | .put _ _ c => isLineChar c = true
  | .write _ _ text => ∀ c ∈ text.toList, isLineChar c = true
  | .across .. | .upright .. | .frame .. => True

theorem Stroke.isLineChar_of_frameChar? {left top right bottom x y : Nat} {c : Char}
    (written : frameChar? left top right bottom x y = some c) : isLineChar c = true := by
  unfold frameChar? at written
  repeat' split at written
  all_goals cases written
  all_goals rfl

theorem Stroke.isLineChar_of_charAt? {s : Stroke} {width height x y : Nat} {c : Char}
    (draws : s.DrawsLines) (written : s.charAt? width height x y = some c) :
    isLineChar c = true := by
  unfold charAt? at written
  split at written
  · cases s with
    | put x₀ y₀ c₀ =>
      cases (Option.ite_none_right_eq_some.mp written).2
      exact draws
    | write x₀ y₀ text =>
      exact draws c (List.mem_of_getElem? (Option.ite_none_right_eq_some.mp written).2)
    | across | upright =>
      cases (Option.ite_none_right_eq_some.mp written).2
      rfl
    | frame x₀ y₀ w h =>
      simp only [wholeChar?] at written
      split at written
      · cases (Option.ite_none_right_eq_some.mp written).2
        rfl
      · exact isLineChar_of_frameChar? written
  · split at written
    · rename_i torn
      have marked := (mem_made_of_torn torn).mpr written
      rw [← not_not (a := isLineChar c = true), not_isLineChar_iff]
      exact not_isText_of_torn torn marked
    · cases written

namespace Cell

/-- A cell that was filled first and then written in: the last text, and the sides of the lines after
it. -/
def ofWritten (fill : Char) (written : List Char) : Cell where
  ink := (written.filter (!isLineChar ·)).getLastD fill
  edges := .ofChars (written.rtakeWhile isLineChar)

variable {fill c : Char} {cs written : List Char} {cell : Cell} {side : Side}

theorem ofWritten_concat :
    ofWritten fill (written ++ [c]) = (ofWritten fill written).marked c := by
  by_cases line : isLineChar c = true
  · obtain ⟨e, drawn⟩ := isLineChar_iff.mp line
    simp only [ofWritten, marked, drawn, List.filter_append, List.rtakeWhile_concat, line, if_true,
      Edges.ofChars_concat drawn]
    simp [line]
  · have text := not_isLineChar_iff.mp line
    simp only [ofWritten, marked, text, List.filter_append, List.rtakeWhile_concat, line]
    simp [line, Edges.ofChars]

theorem foldl_marked (fill : Char) (written : List Char) :
    written.foldl marked ⟨fill, .none⟩ = ofWritten fill written := by
  induction written using List.reverseRecOn with
  | nil => rfl
  | append_singleton written c ih => rw [List.foldl_append, ih, ofWritten_concat]; rfl

theorem ink_foldl_marked (lines : ∀ c ∈ cs, isLineChar c = true) :
    (cs.foldl marked cell).ink = cell.ink := by
  induction cs generalizing cell with
  | nil => rfl
  | cons c cs ih =>
    obtain ⟨e, drawn⟩ := isLineChar_iff.mp (lines c List.mem_cons_self)
    rw [List.foldl_cons, ih fun d mem => lines d (List.mem_cons_of_mem c mem), marked, drawn]

/-- Lines keep the sides of a cell and add their own. -/
theorem reach_foldl_marked (lines : ∀ c ∈ cs, isLineChar c = true) :
    (cs.foldl marked cell).edges.reach side = true ↔
      cell.edges.reach side = true ∨
        ∃ c ∈ cs, ∃ e, Edges.ofChar? c = some e ∧ e.reach side = true := by
  induction cs generalizing cell with
  | nil => simp
  | cons c cs ih =>
    obtain ⟨e, drawn⟩ := isLineChar_iff.mp (lines c List.mem_cons_self)
    rw [List.foldl_cons, ih fun d mem => lines d (List.mem_cons_of_mem c mem),
      edges_marked_of_line drawn, Edges.reach_union, List.exists_mem_cons_iff, or_assoc]
    simp [drawn]

/-- Which lines are drawn matters, and not in what order or how often. -/
theorem foldl_marked_eq {ds : List Char} (lines : ∀ c ∈ cs, isLineChar c = true)
    (same : ∀ c, c ∈ cs ↔ c ∈ ds) : cs.foldl marked cell = ds.foldl marked cell := by
  have others : ∀ d ∈ ds, isLineChar d = true := fun d mem => lines d ((same d).mpr mem)
  have ink : (cs.foldl marked cell).ink = (ds.foldl marked cell).ink := by
    rw [ink_foldl_marked lines, ink_foldl_marked others]
  have edges : (cs.foldl marked cell).edges = (ds.foldl marked cell).edges := by
    refine Edges.ext_reach fun side => Bool.eq_iff_iff.mpr ?_
    simp only [reach_foldl_marked lines, reach_foldl_marked others, same]
  exact congrArg₂ Cell.mk ink edges

end Cell

namespace Grid

variable {g g' : Grid} {s : Stroke} {strokes lines others : List Stroke} {x y : Nat} {c : Char}

theorem size_draw (g : Grid) (s : Stroke) :
    (g.draw s).1.width = g.width ∧ (g.draw s).1.height = g.height :=
  ⟨(g.marked_draw s).width, (g.marked_draw s).height⟩

/-- Draws one stroke after the other and passes over those that fail. -/
def drawEach (g : Grid) (strokes : List Stroke) : Grid := strokes.foldl (fun g s => (g.draw s).1) g

theorem drawEach_append (g : Grid) (strokes others : List Stroke) :
    g.drawEach (strokes ++ others) = (g.drawEach strokes).drawEach others := List.foldl_append

theorem size_drawEach (g : Grid) (strokes : List Stroke) :
    (g.drawEach strokes).width = g.width ∧ (g.drawEach strokes).height = g.height := by
  induction strokes generalizing g with
  | nil => exact ⟨rfl, rfl⟩
  | cons s strokes ih =>
    obtain ⟨width, height⟩ := ih (g.draw s).1
    exact ⟨width.trans (g.size_draw s).1, height.trans (g.size_draw s).2⟩

/-- What the strokes write in a cell of a grid of that size, in order and until each of them ends. -/
def written (width height : Nat) (strokes : List Stroke) (x y : Nat) : List Char :=
  strokes.filterMap fun s => s.charAt? width height x y

theorem size_blank {width height : Nat} {fill : Char} (ok : blank width height fill = .ok g) :
    g.width = width ∧ g.height = height := by
  by_cases fits : width * height < areaLimit
  · obtain ⟨g', made, size⟩ := blank_of_fits fits fill
    cases ok.symm.trans made
    exact size
  · rw [blank, if_neg fits] at ok
    cases ok

/-- A run of strokes, seen from one cell. -/
theorem cell_drawEach (g : Grid) (sized : ∀ s ∈ strokes, s.Sized) (x y : Nat) :
    (g.drawEach strokes).cell x y =
      (written g.width g.height strokes x y).foldl Cell.marked (g.cell x y) := by
  induction strokes generalizing g with
  | nil => rfl
  | cons s strokes ih =>
    rw [List.forall_mem_cons] at sized
    have rest := ih (g.draw s).1 sized.2
    rw [(g.size_draw s).1, (g.size_draw s).2, g.cell_draw sized.1] at rest
    refine rest.trans ?_
    rw [written, written, List.filterMap_cons]
    cases s.charAt? g.width g.height x y <;> rfl

theorem mem_written {width height : Nat} : c ∈ written width height strokes x y ↔
    ∃ s ∈ strokes, s.charAt? width height x y = some c := by
  simp only [written, List.mem_filterMap]

/-- Lines are drawn in any order, and once is enough. -/
theorem drawEach_eq (sized : ∀ s ∈ lines, s.Sized) (draw : ∀ s ∈ lines, s.DrawsLines)
    (same : ∀ s, s ∈ lines ↔ s ∈ others) : g.drawEach lines = g.drawEach others := by
  have others_sized : ∀ s ∈ others, s.Sized := fun s mem => sized s ((same s).mpr mem)
  obtain ⟨width, height⟩ := g.size_drawEach lines
  obtain ⟨width', height'⟩ := g.size_drawEach others
  refine ext_cell (width.trans width'.symm) (height.trans height'.symm) fun x y => ?_
  rw [cell_drawEach g sized, cell_drawEach g others_sized]
  apply Cell.foldl_marked_eq
  · intro c mem
    obtain ⟨s, drawn, written⟩ := mem_written.mp mem
    exact Stroke.isLineChar_of_charAt? (draw s drawn) written
  · intro c
    simp only [mem_written, same]

/-- The cell on that side, if the grid has one. -/
def beside? (g : Grid) (x y : Nat) : Side → Option (Nat × Nat)
  | .left => if 0 < x then some (x - 1, y) else none
  | .right => if x + 1 < g.width then some (x + 1, y) else none
  | .up => if 0 < y then some (x, y - 1) else none
  | .down => if y + 1 < g.height then some (x, y + 1) else none

end Grid

def Side.facing : Side → Side
  | .left => .right
  | .right => .left
  | .up => .down
  | .down => .up

namespace Grid

variable {g g' : Grid} {x y column row : Nat} {side : Side}

/-- The cell reaches that side and its neighbour there reaches back. -/
def Met (g : Grid) (x y : Nat) (side : Side) : Prop :=
  (g.edges x y).reach side = true ∧
    ∃ n, g.beside? x y side = some n ∧ (g.edges n.1 n.2).reach side.facing = true

theorem edges_outside (outside : ¬ (x < g.width ∧ y < g.height)) : g.edges x y = .none := by
  rw [edges, cell_outside outside]

theorem reach_answered : (g.answered x y).reach side = true ↔ g.Met x y side := by
  cases side with
  | left => simp [answered, Met, beside?, Edges.reach, Side.facing, and_assoc]
  | up => simp [answered, Met, beside?, Edges.reach, Side.facing, and_assoc]
  | right =>
    by_cases room : x + 1 < g.width
    · simp [answered, Met, beside?, Edges.reach, Side.facing, room]
    · have outside : g.edges (x + 1) y = .none := edges_outside fun inside => room inside.1
      simp [answered, Met, beside?, Edges.reach, room, outside, Edges.none]
  | down =>
    by_cases room : y + 1 < g.height
    · simp [answered, Met, beside?, Edges.reach, Side.facing, room]
    · have outside : g.edges x (y + 1) = .none := edges_outside fun inside => room inside.2
      simp [answered, Met, beside?, Edges.reach, room, outside, Edges.none]

theorem answered_eq {met : Edges} (all : ∀ side, met.reach side = true ↔ g.Met x y side) :
    g.answered x y = met :=
  Edges.ext_reach fun side => Bool.eq_iff_iff.mpr (reach_answered.trans (all side).symm)

/-- The first cell is one of the four around the second. -/
def Beside (column row x y : Nat) : Prop :=
  column = x ∧ (row + 1 = y ∨ row = y + 1) ∨ row = y ∧ (column + 1 = x ∨ column = x + 1)

theorem beside_of_beside? {n : Nat × Nat} (next : g.beside? x y side = some n) :
    Beside n.1 n.2 x y := by
  cases side with
  | left =>
    obtain ⟨room, here⟩ := Option.ite_none_right_eq_some.mp next
    cases here
    exact .inr ⟨rfl, .inl (Nat.sub_add_cancel room)⟩
  | right =>
    cases (Option.ite_none_right_eq_some.mp next).2
    exact .inr ⟨rfl, .inr rfl⟩
  | up =>
    obtain ⟨room, here⟩ := Option.ite_none_right_eq_some.mp next
    cases here
    exact .inl ⟨rfl, .inl (Nat.sub_add_cancel room)⟩
  | down =>
    cases (Option.ite_none_right_eq_some.mp next).2
    exact .inl ⟨rfl, .inr rfl⟩

theorem beside?_congr (width : g'.width = g.width) (height : g'.height = g.height) :
    g'.beside? x y side = g.beside? x y side := by
  cases side <;> simp only [beside?, width, height]

/-- What a cell shows hangs on the cell and on the sides of the cells around it. -/
theorem get_congr (width : g'.width = g.width) (height : g'.height = g.height)
    (cell : g'.cell x y = g.cell x y)
    (around : ∀ column row, Beside column row x y → g'.edges column row = g.edges column row) :
    g'.get x y = g.get x y := by
  have own : g'.edges x y = g.edges x y := congrArg Cell.edges cell
  have answered : g'.answered x y = g.answered x y := by
    refine answered_eq fun side => ?_
    rw [reach_answered, Met, Met, own, beside?_congr width height]
    refine and_congr_right' (exists_congr fun n => and_congr_right fun next => ?_)
    rw [around n.1 n.2 (beside_of_beside? next)]
  have glyph : g'.glyph x y = g.glyph x y := by simp only [Grid.glyph, cell, answered]
  simp only [get, fault?, width, height, glyph]

/-- One character changes what its cell and the four around it show. -/
theorem get_draw_put (g : Grid) (x y : Nat) (c : Char) (other : ¬ (column = x ∧ row = y))
    (apart : ¬ Beside column row x y) :
    (g.draw (.put x y c)).1.get column row = g.get column row := by
  have elsewhere : ∀ a b, ¬ (a = x ∧ b = y) → (g.draw (.put x y c)).1.cell a b = g.cell a b := by
    intro a b away
    rw [g.cell_draw (s := .put x y c) trivial, Stroke.charAt?, Stroke.wholeChar?, if_neg away]
    split
    · rfl
    · split <;> rfl
  obtain ⟨width, height⟩ := g.size_draw (.put x y c)
  refine get_congr width height (elsewhere column row other) fun a b beside => ?_
  refine congrArg Cell.edges (elsewhere a b fun here => apart ?_)
  simp only [Beside] at beside ⊢
  omega

/-- A grid of that size and filling after the strokes, cell by cell. -/
structure Cellwise (width height : Nat) (fill : Char) (strokes : List Stroke) (g : Grid) :
    Prop where
  size : g.width = width ∧ g.height = height
  holds : ∀ x y, x < width → y < height →
    g.cell x y = .ofWritten fill (written width height strokes x y)
  text : ∀ x y, x < width → y < height → g.edges x y = .none → g.get x y = .ok (g.cell x y).ink
  joined : ∀ x y, x < width → y < height → ∀ met : Edges, met ≠ .none →
    (∀ side, met.reach side = true ↔ g.Met x y side) → g.get x y = .ok met.glyph
  alone : ∀ x y, x < width → y < height → g.edges x y ≠ .none → (∀ side, ¬ g.Met x y side) →
    g.get x y = .ok (g.edges x y).glyph
  near : ∀ x y c column row, ¬ (column = x ∧ row = y) → ¬ Beside column row x y →
    (g.draw (.put x y c)).1.get column row = g.get column row
  unordered : ∀ lines others after, (∀ s ∈ lines, s.Sized ∧ s.DrawsLines) →
    (∀ s, s ∈ lines ↔ s ∈ others) → g.drawEach (lines ++ after) = g.drawEach (others ++ after)

/-- What was written in a cell decides what it holds, and with the sides of the cells around it what
it shows. -/
theorem cells_decided {width height : Nat} {fill : Char} {start : Grid}
    (ok : blank width height fill = .ok start) (strokes : List Stroke)
    (sized : ∀ s ∈ strokes, s.Sized) :
    Cellwise width height fill strokes (start.drawEach strokes) := by
  have columns : start.width = width := (size_blank ok).1
  have rows : start.height = height := (size_blank ok).2
  have size := start.size_drawEach strokes
  rw [columns, rows] at size
  have inside : ∀ x y, x < width → y < height → (start.drawEach strokes).area.Has x y := by
    intro x y left top
    simp only [Area.Has, area, size, left, top, Nat.zero_le, and_self]
  constructor
  case size => exact size
  case holds =>
    intro x y left top
    rw [cell_drawEach start sized, cell_blank ok ⟨left, top⟩, Cell.foldl_marked, columns, rows]
  case text =>
    intro x y left top none
    rw [get_of_has (inside x y left top), glyph_of_text]
    rw [← none]
    rfl
  case joined =>
    intro x y left top met some all
    rw [get_of_has (inside x y left top), glyph_of_answered (answered_eq all) some]
  case alone =>
    intro x y left top some unmet
    have unanswered : (start.drawEach strokes).answered x y = .none :=
      answered_eq fun side => iff_of_false (by cases side <;> exact Bool.false_ne_true) (unmet side)
    rw [get_of_has (inside x y left top), glyph_of_line some, if_pos unanswered]
  case near =>
    intro x y c column row other apart
    exact get_draw_put _ x y c other apart
  case unordered =>
    intro lines others after draw same
    rw [drawEach_append, drawEach_append,
      drawEach_eq (fun s mem => (draw s mem).1) (fun s mem => (draw s mem).2) same]

/-- A frame that is crossed by a level line, with text over the crossing. One of the lines ends
outside the grid, and the last frame is torn and leaves two upright lines. -/
def crossing : List Stroke :=
  [.frame 0 0 5 3, .across 1 9 1, .across 0 3 1, .write 2 1 "ab", .put 3 1 '─',
    .frame 3 (areaLimit - 1) 2 4]

theorem cells_decided_crossing : (∀ s ∈ crossing, s.Sized) ∧
    ∃ start, blank 5 3 '.' = .ok start ∧
      Cellwise 5 3 '.' crossing (start.drawEach crossing) ∧
      (start.drawEach crossing).get 0 1 = .ok '├' ∧ (start.drawEach crossing).get 2 1 = .ok 'a' ∧
      (start.drawEach crossing).cell 3 1 = ⟨'b', ⟨true, true, true, true⟩⟩ := by
  have sized : ∀ s ∈ crossing, s.Sized := by
    simp [crossing, Stroke.Sized, areaLimit]
  exact ⟨sized, _, rfl, cells_decided rfl crossing sized, by decide +kernel, by decide +kernel,
    by decide +kernel⟩

end Grid

end Trackplan
