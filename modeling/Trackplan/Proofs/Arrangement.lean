import Trackplan.Proofs.Area
import Trackplan.Proofs.Neighbours

/-! How the parts of a figure are arranged. They lie in its rectangle and share no cell; items of
a sequence stand side by side on one track, the paths of a branch and the two ways of a loop one
below the other between free columns for the rails. -/
namespace Trackplan

/-- Side by side on one track, from the left edge of the area to its right edge. -/
structure Row (area : Area) (track : Nat) (items : List Placed) : Prop where
  nonempty : items ≠ []
  on_track : ∀ p ∈ items, p.trackRow = track
  starts : ∀ p ∈ items.head?, p.x = area.left
  spaced : ∀ p q, [p, q] <:+: items → q.x = p.endCol + Figure.gap
  ordered : items.Pairwise (fun p q => p.endCol + Figure.gap ≤ q.x)
  ends : ∀ p ∈ items.getLast?, p.endCol = area.right

/-- One below the other, from the top edge of the area to its bottom edge, with three columns on
either side left free. -/
structure Stack (area : Area) (paths : List Placed) : Prop where
  nonempty : paths ≠ []
  starts : ∀ p ∈ paths.head?, p.y = area.top
  tiled : ∀ p q, [p, q] <:+: paths → q.y = p.endRow
  ordered : paths.Pairwise (fun p q => p.endRow ≤ q.y)
  ends : ∀ p ∈ paths.getLast?, p.endRow = area.bottom
  free : ∀ p ∈ paths, area.left + 3 ≤ p.x ∧ p.endCol + 3 ≤ area.right

namespace Row

variable {area : Area} {track : Nat} {items : List Placed} {p : Placed}

theorem columns (row : Row area track items) (mem : p ∈ items) :
    area.left ≤ p.x ∧ p.endCol ≤ area.right := by
  obtain ⟨first, head, before⟩ := Neighbours.first_before row.ordered mem
  obtain ⟨last, final, after⟩ := Neighbours.last_after row.ordered mem
  have := row.starts first head
  have := row.ends last final
  constructor
  · rcases before with rfl | before
    · omega
    · simp only [Placed.endCol] at *; omega
  · rcases after with rfl | after
    · omega
    · simp only [Placed.endCol] at *; omega

theorem apart (row : Row area track items) : items.Pairwise (fun p q => p.area.Apart q.area) :=
  row.ordered.imp fun h => Area.apart_of_columns (Nat.le_of_add_right_le h)

theorem shifted (row : Row area track items) (dx dy : Nat) :
    Row (area.shifted dx dy) (dy + track) (items.map (·.shifted dx dy)) where
  nonempty := by simpa using row.nonempty
  on_track p mem := by
    obtain ⟨item, inrow, rfl⟩ := List.mem_map.mp mem
    rw [Placed.trackRow_shifted, row.on_track item inrow]
  starts p head := by
    obtain ⟨item, first, rfl⟩ := Option.map_eq_some_iff.mp (List.head?_map ▸ head)
    rw [Placed.x_shifted, row.starts item first, Area.shifted]
  spaced p q next := by
    obtain ⟨a, b, inrow, rfl, rfl⟩ := Neighbours.exists_of_map next
    rw [Placed.x_shifted, Placed.endCol_shifted, row.spaced a b inrow, Nat.add_assoc]
  ordered := by
    refine List.pairwise_map.mpr (row.ordered.imp fun h => ?_)
    rw [Placed.x_shifted, Placed.endCol_shifted]; omega
  ends p final := by
    obtain ⟨item, last, rfl⟩ := Option.map_eq_some_iff.mp (List.getLast?_map ▸ final)
    rw [Placed.endCol_shifted, row.ends item last, Area.shifted]

end Row

namespace Stack

variable {area : Area} {paths : List Placed} {p : Placed}

theorem inside (stack : Stack area paths) (mem : p ∈ paths) : p.area.Inside area := by
  obtain ⟨first, head, before⟩ := Neighbours.first_before stack.ordered mem
  obtain ⟨last, final, after⟩ := Neighbours.last_after stack.ordered mem
  have := stack.starts first head
  have := stack.ends last final
  have := stack.free p mem
  refine ⟨by simp only [Placed.area]; omega, by simp only [Placed.area]; omega, ?_, ?_⟩
  · rcases before with rfl | before
    · simp only [Placed.area]; omega
    · simp only [Placed.area, Placed.endRow] at *; omega
  · rcases after with rfl | after
    · simp only [Placed.area]; omega
    · simp only [Placed.area, Placed.endRow] at *; omega

theorem apart (stack : Stack area paths) : paths.Pairwise (fun p q => p.area.Apart q.area) :=
  stack.ordered.imp fun h => Area.apart_of_rows h

theorem shifted (stack : Stack area paths) (dx dy : Nat) :
    Stack (area.shifted dx dy) (paths.map (·.shifted dx dy)) where
  nonempty := by simpa using stack.nonempty
  starts p head := by
    obtain ⟨path, first, rfl⟩ := Option.map_eq_some_iff.mp (List.head?_map ▸ head)
    rw [Placed.y_shifted, stack.starts path first, Area.shifted]
  tiled p q next := by
    obtain ⟨a, b, instack, rfl, rfl⟩ := Neighbours.exists_of_map next
    rw [Placed.y_shifted, Placed.endRow_shifted, stack.tiled a b instack]
  ordered := by
    refine List.pairwise_map.mpr (stack.ordered.imp fun h => ?_)
    rw [Placed.y_shifted, Placed.endRow_shifted]; omega
  ends p final := by
    obtain ⟨path, last, rfl⟩ := Option.map_eq_some_iff.mp (List.getLast?_map ▸ final)
    rw [Placed.endRow_shifted, stack.ends path last, Area.shifted]
  free p mem := by
    obtain ⟨path, instack, rfl⟩ := List.mem_map.mp mem
    have := stack.free path instack
    rw [Placed.x_shifted, Placed.endCol_shifted]
    simp only [Area.shifted]; omega

end Stack

namespace Figure

/-- A branch or a loop: its parts hang between two rails. -/
def Railed : Figure → Prop
  | .branch .. | .loop .. => True
  | .box .. | .caption _ | .track _ | .sequence .. => False

theorem Railed.branch_or_loop {f : Figure} (railed : f.Railed) :
    (∃ above main below, f = .branch above main below) ∨ ∃ body back, f = .loop body back := by
  cases f with
  | box | caption | track | sequence => cases railed
  | branch above main below => exact .inl ⟨above, main, below, rfl⟩
  | loop body back => exact .inr ⟨body, back, rfl⟩

/-- What holds of the rectangles of any figure and its parts. -/
structure Fits (f : Figure) : Prop where
  width_pos : 1 ≤ f.width
  height_pos : 1 ≤ f.height
  track_inside : f.rise < f.height
  parts_inside : ∀ p ∈ f.children, p.area.Inside f.area
  parts_apart : f.children.Pairwise (fun p q => p.area.Apart q.area)

/-- How the parts stand, and that nothing is taken from a smaller number on the way: an item is
lifted by no more than the track, the columns of a row end in a gap, and a way back is no wider
than its loop has room for. -/
def Arranged (f : Figure) : Prop :=
  match f with
  | .box .. | .caption _ | .track _ => f.children = []
  | .sequence first rest =>
    Row f.area f.rise f.children ∧ (∀ item ∈ first :: rest, item.rise ≤ f.rise) ∧
      (first :: rest).foldl (fun x item => x + item.width + gap) 0 = f.width + gap
  | .branch above _ _ =>
    Stack f.area f.children ∧ ∃ p, f.children[above.length]? = some p ∧ p.trackRow = f.rise
  | .loop body back =>
    Stack f.area f.children ∧ ∃ p q, f.children = [p, q] ∧ p.figure = body ∧ q.figure = back ∧
      p.trackRow = f.rise ∧ back.width ≤ f.width - 2 * inset

theorem mem_inRow {track x : Nat} {fs : List Figure} {p : Placed} (mem : p ∈ inRow track x fs) :
    p.figure ∈ fs ∧ p.y = track - p.figure.rise ∧ x ≤ p.x := by
  induction fs generalizing x with
  | nil => cases mem
  | cons f rest ih =>
    rcases List.mem_cons.mp mem with rfl | mem
    · simp
    · obtain ⟨inrest, row, after⟩ := ih mem
      exact ⟨List.mem_cons_of_mem _ inrest, row, by omega⟩

theorem inRow_spaced {track x : Nat} {fs : List Figure} {p q : Placed}
    (next : [p, q] <:+: inRow track x fs) : q.x = p.endCol + gap := by
  induction fs generalizing x with
  | nil => simp [inRow] at next
  | cons f rest ih =>
    rcases Neighbours.cons_iff.mp next with ⟨rfl, head⟩ | next
    · cases rest with
      | nil => simp [inRow] at head
      | cons g rest =>
        simp only [inRow, List.head?_cons, Option.some.injEq] at head
        rw [← head, Placed.endCol]
    · exact ih next

theorem inRow_ordered (track x : Nat) (fs : List Figure) :
    (inRow track x fs).Pairwise (fun p q => p.endCol + gap ≤ q.x) := by
  induction fs generalizing x with
  | nil => exact .nil
  | cons f rest ih =>
    refine .cons (fun q mem => ?_) (ih _)
    have := (mem_inRow mem).2.2
    simp only [Placed.endCol] at *; omega

theorem inRow_ends {track x : Nat} {fs : List Figure} {p : Placed}
    (last : p ∈ (inRow track x fs).getLast?) :
    p.endCol + gap = fs.foldl (fun x f => x + f.width + gap) x := by
  induction fs generalizing x with
  | nil => simp [inRow] at last
  | cons f rest ih =>
    cases rest with
    | nil =>
      simp only [inRow, List.getLast?_singleton, Option.mem_some_iff] at last
      rw [← last]; rfl
    | cons g rest => exact ih (by simpa [inRow] using last)

theorem figures_inRow (track x : Nat) (fs : List Figure) :
    (inRow track x fs).map Placed.figure = fs := by
  induction fs generalizing x with
  | nil => rfl
  | cons f rest ih => simp [inRow, ih]

theorem foldl_columns (x : Nat) (fs : List Figure) :
    fs.foldl (fun x f => x + f.width + gap) x = x + widthAfter fs := by
  induction fs generalizing x with
  | nil => rfl
  | cons f rest ih => rw [List.foldl_cons, ih, widthAfter]; omega

/-- The columns of a row, reckoned from left to right, end in a gap too many. -/
theorem columns_of_row (first : Figure) (rest : List Figure) :
    (first :: rest).foldl (fun x f => x + f.width + gap) 0 =
      (Figure.sequence first rest).width + gap := by
  rw [foldl_columns, widthAfter, width]; omega

theorem rise_le_of_mem {first f : Figure} {rest : List Figure} (mem : f ∈ first :: rest) :
    f.rise ≤ (Figure.sequence first rest).rise := by
  simp only [rise]
  rcases List.mem_cons.mp mem with rfl | mem
  · omega
  · have := rise_le_highest mem; omega

theorem fall_le_of_mem {first f : Figure} {rest : List Figure} (mem : f ∈ first :: rest) :
    f.fall ≤ (Figure.sequence first rest).fall := by
  simp only [fall]
  rcases List.mem_cons.mp mem with rfl | mem
  · omega
  · have := fall_le_deepest mem; omega

theorem row_of_sequence (first : Figure) (rest : List Figure) :
    Row (Figure.sequence first rest).area (Figure.sequence first rest).rise
      (Figure.sequence first rest).children where
  nonempty := by simp [children, inRow]
  on_track p mem := by
    obtain ⟨item, row, -⟩ := mem_inRow mem
    have := rise_le_of_mem item
    simp only [Placed.trackRow]; omega
  starts := by simp [children, inRow, area]
  spaced p q next := inRow_spaced next
  ordered := inRow_ordered ..
  ends p last := by
    have := inRow_ends last
    rw [columns_of_row] at this
    simp only [area]; omega

theorem mem_inStack {y : Nat} {fs : List Figure} {p : Placed} (mem : p ∈ inStack y fs) :
    p.figure ∈ fs ∧ p.x = inset ∧ y ≤ p.y := by
  induction fs generalizing y with
  | nil => cases mem
  | cons f rest ih =>
    rcases List.mem_cons.mp mem with rfl | mem
    · simp
    · obtain ⟨inrest, column, below⟩ := ih mem
      exact ⟨List.mem_cons_of_mem _ inrest, column, by omega⟩

theorem inStack_tiled {y : Nat} {fs : List Figure} {p q : Placed}
    (next : [p, q] <:+: inStack y fs) : q.y = p.endRow := by
  induction fs generalizing y with
  | nil => simp [inStack] at next
  | cons f rest ih =>
    rcases Neighbours.cons_iff.mp next with ⟨rfl, head⟩ | next
    · cases rest with
      | nil => simp [inStack] at head
      | cons g rest =>
        simp only [inStack, List.head?_cons, Option.some.injEq] at head
        rw [← head, Placed.endRow]
    · exact ih next

theorem inStack_ordered (y : Nat) (fs : List Figure) :
    (inStack y fs).Pairwise (fun p q => p.endRow ≤ q.y) := by
  induction fs generalizing y with
  | nil => exact .nil
  | cons f rest ih =>
    refine .cons (fun q mem => ?_) (ih _)
    have := (mem_inStack mem).2.2
    simp only [Placed.endRow] at *; omega

theorem inStack_ends {y : Nat} {fs : List Figure} {p : Placed}
    (last : p ∈ (inStack y fs).getLast?) : p.endRow = y + stacked fs := by
  induction fs generalizing y with
  | nil => simp [inStack] at last
  | cons f rest ih =>
    cases rest with
    | nil =>
      simp only [inStack, List.getLast?_singleton, Option.mem_some_iff] at last
      subst last
      simp [Placed.endRow, stacked, height]
    | cons g rest =>
      have := ih (y := y + f.height) (by simpa [inStack] using last)
      rw [stacked_cons]; omega

theorem figures_inStack (y : Nat) (fs : List Figure) : (inStack y fs).map Placed.figure = fs := by
  induction fs generalizing y with
  | nil => rfl
  | cons f rest ih => simp [inStack, ih]

theorem length_inStack (y : Nat) (fs : List Figure) : (inStack y fs).length = fs.length := by
  have figures := congrArg List.length (figures_inStack y fs)
  rwa [List.length_map] at figures

theorem height_branch (above : List Figure) (main : Figure) (below : List Figure) :
    (Figure.branch above main below).height = stacked (above ++ main :: below) := by
  rw [stacked_append, stacked_cons]
  simp only [height, rise, fall]; omega

theorem width_le_of_path {above below : List Figure} {main f : Figure}
    (mem : f ∈ above ++ main :: below) :
    f.width + 2 * inset ≤ (Figure.branch above main below).width := by
  simp only [width]
  rcases List.mem_append.mp mem with mem | mem
  · have := width_le_widest mem; omega
  · rcases List.mem_cons.mp mem with rfl | mem
    · omega
    · have := width_le_widest mem; omega

theorem stack_of_branch (above : List Figure) (main : Figure) (below : List Figure) :
    Stack (Figure.branch above main below).area (Figure.branch above main below).children where
  nonempty := by simp [children, inStack_append, inStack]
  starts p head := by
    simp only [children] at head
    cases above <;> simp_all [inStack, area, eq_comm]
  tiled p q next := inStack_tiled next
  ordered := inStack_ordered ..
  ends p last := by
    have := inStack_ends last
    simp only [area, height_branch]; omega
  free p mem := by
    obtain ⟨path, column, -⟩ := mem_inStack mem
    have := width_le_of_path path
    simp only [area, Placed.endCol, inset] at *; omega

theorem main_of_branch (above : List Figure) (main : Figure) (below : List Figure) :
    (Figure.branch above main below).children[above.length]? =
      some ⟨inset, stacked above, main⟩ := by
  simp only [children, inStack_append, inStack]
  rw [List.getElem?_append_right (Nat.le_of_eq (length_inStack 0 above))]
  simp [length_inStack]

theorem stack_of_loop (body back : Figure) :
    Stack (Figure.loop body back).area (Figure.loop body back).children where
  nonempty := by simp [children]
  starts := by simp [children, area]
  tiled p q next := by
    rcases Neighbours.cons_iff.mp next with ⟨rfl, head⟩ | next
    · simp_all [Placed.endRow, eq_comm]
    · rcases Neighbours.cons_iff.mp next with ⟨-, head⟩ | next
      · simp at head
      · simp at next
  ordered := by simp [children, Placed.endRow]
  ends := by
    simp only [children, area, Placed.endRow, height, fall, rise]
    simp; omega
  free p mem := by
    simp only [children, List.mem_cons, List.not_mem_nil, or_false] at mem
    rcases mem with rfl | rfl <;>
      simp only [area, Placed.endCol, width, inset, backCol] <;> omega

theorem fits (f : Figure) : f.Fits where
  width_pos := f.width_pos
  height_pos := by have := f.fall_pos; simp only [height]; omega
  track_inside := by have := f.fall_pos; simp only [height]; omega
  parts_inside p mem := by
    cases f with
    | box | caption | track => cases mem
    | sequence first rest =>
      have row := row_of_sequence first rest
      have columns := row.columns mem
      have track := row.on_track p mem
      have falls := fall_le_of_mem (mem_inRow mem).1
      simp only [Placed.trackRow] at track
      simp only [Area.Inside, Placed.area, Placed.endRow, area, height] at *
      omega
    | branch above main below => exact (stack_of_branch above main below).inside mem
    | loop body back => exact (stack_of_loop body back).inside mem
  parts_apart := by
    cases f with
    | box | caption | track => exact .nil
    | sequence first rest => exact (row_of_sequence first rest).apart
    | branch above main below => exact (stack_of_branch above main below).apart
    | loop body back => exact (stack_of_loop body back).apart

theorem arranged (f : Figure) : f.Arranged := by
  cases f with
  | box | caption | track => rfl
  | sequence first rest =>
    exact ⟨row_of_sequence first rest, fun _ mem => rise_le_of_mem mem, columns_of_row first rest⟩
  | branch above main below =>
    exact ⟨stack_of_branch above main below, _, main_of_branch above main below, by
      simp only [Placed.trackRow, rise]⟩
  | loop body back =>
    refine ⟨stack_of_loop body back, _, _, rfl, rfl, rfl, by simp [Placed.trackRow, rise], ?_⟩
    simp only [width]; omega

end Figure

namespace Placed

variable {whole p q : Placed}

theorem row {first : Figure} {rest : List Figure} (h : p.figure = .sequence first rest) :
    Row p.area p.trackRow p.parts := by
  have row := (Figure.row_of_sequence first rest).shifted p.x p.y
  rw [← h, ← area_eq] at row
  exact row

theorem stack (railed : p.figure.Railed) : Stack p.area p.parts := by
  rw [area_eq]
  rcases railed.branch_or_loop with ⟨above, main, below, h⟩ | ⟨body, back, h⟩
  · have stack := (Figure.stack_of_branch above main below).shifted p.x p.y
    rwa [← h] at stack
  · have stack := (Figure.stack_of_loop body back).shifted p.x p.y
    rwa [← h] at stack

theorem part_inside (part : q ∈ p.parts) : q.area.Inside p.area := by
  obtain ⟨c, child, rfl⟩ := List.mem_map.mp part
  rw [area_shifted, p.area_eq]
  exact (p.figure.fits.parts_inside c child).shifted p.x p.y

theorem Holds.inside (held : whole.Holds p) : p.area.Inside whole.area := by
  induction held with
  | self => exact .refl _
  | part _ part ih => exact (part_inside part).trans ih

end Placed

/-- Every figure of a plan lies in the root's rectangle, fits and is arranged. -/
theorem Plan.figures_arranged (style : Style) (d : Diagram) {p : Placed}
    (held : (Plan.ofDiagram style d).root.Holds p) :
    p.area.Inside (Plan.ofDiagram style d).root.area ∧ p.figure.Fits ∧ p.figure.Arranged :=
  ⟨held.inside, p.figure.fits, p.figure.arranged⟩

/-- Pairs set apart by commas, or nothing at all. -/
def Diagram.commaList : Diagram where
  rule := none
  root := .optional (.repetition .one (.sequence [.reference "key", .reference "value"])
    (some (.terminal ⟨",", .literal⟩)))

theorem Plan.figures_arranged_commaList :
    ∃ p, (Plan.ofDiagram {} .commaList).root.Holds p ∧
      (∃ first rest, p.figure = .sequence first rest) ∧
      p.area.Inside (Plan.ofDiagram {} .commaList).root.area ∧ p.figure.Fits ∧
      p.figure.Arranged := by
  have loop := List.mem_of_getElem? (rfl : (Plan.ofDiagram {} .commaList).root.parts[1]? = some _)
  have pair := (Placed.Holds.part .self loop).part (List.mem_of_getElem? (rfl : _[0]? = some _))
  exact ⟨_, pair, ⟨_, _, rfl⟩, Plan.figures_arranged {} .commaList pair⟩

end Trackplan
