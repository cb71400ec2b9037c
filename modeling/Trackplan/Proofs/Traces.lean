import Trackplan.Proofs.Wholeness

/-! What a stroke leaves in each cell of a grid. It writes one character in every cell that it
reaches, so a single look at the stroke tells what a cell holds after it. -/
namespace Trackplan

namespace Stroke

variable {s : Stroke} {width height x y : Nat} {c : Char}

/-- The size of a frame is a machine word. -/
def Sized : Stroke → Prop
  | .frame _ _ w h => w ≤ Grid.areaLimit ∧ h ≤ Grid.areaLimit
  | .put .. | .write .. | .across .. | .upright .. => True

/-- The character of a frame in a cell. -/
def frameChar? (left top right bottom x y : Nat) : Option Char :=
  if nextOf left ≤ x ∧ x < right ∧ (y = top ∨ y = bottom) then some '─'
  else if nextOf top ≤ y ∧ y < bottom ∧ (x = left ∨ x = right) then some '│'
  else if (x = left ∨ x = right) ∧ (y = top ∨ y = bottom) then
    if y = top then if x = left then some '┌' else some '┐'
    else if x = left then some '└' else some '┘'
  else none

/-- The character that a stroke writes in a cell of a grid of that many columns, if it fits. -/
def wholeChar? (columns : Nat) (s : Stroke) (x y : Nat) : Option Char :=
  match s with
  | .put x₀ y₀ c => if x = x₀ ∧ y = y₀ then some c else none
  | .write x₀ y₀ text =>
    if y = y₀ ∧ x₀ ≤ x ∧ x < columns then text.toList[x - x₀]? else none
  | .across x₀ x₁ y₀ => if min x₀ x₁ ≤ x ∧ x ≤ max x₀ x₁ ∧ y = y₀ then some '─' else none
  | .upright x₀ y₀ y₁ => if x = x₀ ∧ min y₀ y₁ ≤ y ∧ y ≤ max y₀ y₁ then some '│' else none
  | .frame x₀ y₀ w h =>
    let right := lastOf x₀ w
    if isThin w h then if min x₀ right ≤ x ∧ x ≤ max x₀ right ∧ y = y₀ then some '─' else none
    else frameChar? x₀ y₀ right (lastOf y₀ h) x y

/-- What a torn frame writes in a cell before it fails: its upper and lower sides if they have cells,
and else its left and right ones. -/
def tornChar? (s : Stroke) (x y : Nat) : Option Char :=
  match s with
  | .frame x₀ y₀ w h =>
    let right := lastOf x₀ w
    let bottom := lastOf y₀ h
    if nextOf x₀ < right then
      if nextOf x₀ ≤ x ∧ x < right ∧ (y = y₀ ∨ y = bottom) then some '─' else none
    else if nextOf y₀ ≤ y ∧ y < bottom ∧ (x = x₀ ∨ x = right) then some '│' else none
  | .put .. | .write .. | .across .. | .upright .. => none

/-- The character that a stroke writes in a cell of a grid of that size, whether or not it fails. -/
def charAt? (width height : Nat) (s : Stroke) (x y : Nat) : Option Char :=
  if s.Fits width height then s.wholeChar? width x y
  else if s.Torn width height then s.tornChar? x y
  else none

theorem lastOf_lt (first count : Nat) : lastOf first count < Grid.areaLimit :=
  Nat.mod_lt _ (by decide)

/-- A side of two cells or more that can be counted does not come back to where it starts. -/
theorem lastOf_ne {first count : Nat} (long : 2 ≤ count) (sized : count ≤ Grid.areaLimit) :
    lastOf first count ≠ first := by
  simp only [lastOf, wrapped, Grid.areaLimit] at *
  omega

/-- The side between two corners leaves out the first one. -/
theorem ne_of_nextOf_le {first last n : Nat} (after : nextOf first ≤ n) (before : n < last)
    (counted : last < Grid.areaLimit) : n ≠ first := by
  rintro rfl
  rw [nextOf_of_lt before counted] at after
  omega

section Frame

variable {left top right bottom : Nat}

/-- The corners belong to none of the sides. -/
theorem frameChar?_of_corner (columns : right < Grid.areaLimit) (rows : bottom < Grid.areaLimit)
    (column : x = left ∨ x = right) (row : y = top ∨ y = bottom) :
    frameChar? left top right bottom x y =
      if y = top then if x = left then some '┌' else some '┐'
      else if x = left then some '└' else some '┘' := by
  have beside : ¬ (nextOf left ≤ x ∧ x < right ∧ (y = top ∨ y = bottom)) := by
    rintro ⟨after, before, -⟩
    exact column.elim (ne_of_nextOf_le after before columns) before.ne
  have between : ¬ (nextOf top ≤ y ∧ y < bottom ∧ (x = left ∨ x = right)) := by
    rintro ⟨after, before, -⟩
    exact row.elim (ne_of_nextOf_le after before rows) before.ne
  rw [frameChar?, if_neg beside, if_neg between, if_pos ⟨column, row⟩]

theorem frameChar?_of_upright (rows : bottom < Grid.areaLimit) (after : nextOf top ≤ y)
    (before : y < bottom) (side : x = left ∨ x = right) :
    frameChar? left top right bottom x y = some '│' := by
  have inner : ¬ (y = top ∨ y = bottom) := fun row =>
    row.elim (ne_of_nextOf_le after before rows) before.ne
  rw [frameChar?, if_neg fun level => inner level.2.2, if_pos ⟨after, before, side⟩]

theorem mem_frameMarks_iff (wide : right ≠ left) (high : bottom ≠ top)
    (columns : right < Grid.areaLimit) (rows : bottom < Grid.areaLimit) :
    ⟨x, y, c⟩ ∈ frameMarks left top right bottom ↔
      frameChar? left top right bottom x y = some c := by
  have corner := @frameChar?_of_corner x y left top right bottom columns rows
  simp only [mem_frameMarks, Mark.mk.injEq]
  constructor
  · rintro (⟨after, before, side, rfl⟩ | ⟨after, before, side, rfl⟩ | ⟨rfl, rfl, rfl⟩ |
      ⟨rfl, rfl, rfl⟩ | ⟨rfl, rfl, rfl⟩ | ⟨rfl, rfl, rfl⟩)
    · exact if_pos ⟨after, before, side⟩
    · exact frameChar?_of_upright rows after before side
    · rw [corner (.inl rfl) (.inl rfl), if_pos rfl, if_pos rfl]
    · rw [corner (.inr rfl) (.inl rfl), if_pos rfl, if_neg wide]
    · rw [corner (.inl rfl) (.inr rfl), if_neg high, if_pos rfl]
    · rw [corner (.inr rfl) (.inr rfl), if_neg high, if_neg wide]
  · intro written
    by_cases ends : (x = left ∨ x = right) ∧ (y = top ∨ y = bottom)
    · rw [corner ends.1 ends.2] at written
      right; right
      obtain ⟨rfl | rfl, rfl | rfl⟩ := ends
      · rw [if_pos rfl, if_pos rfl] at written
        exact .inl ⟨rfl, rfl, (Option.some.inj written).symm⟩
      · rw [if_neg high, if_pos rfl] at written
        exact .inr (.inr (.inl ⟨rfl, rfl, (Option.some.inj written).symm⟩))
      · rw [if_pos rfl, if_neg wide] at written
        exact .inr (.inl ⟨rfl, rfl, (Option.some.inj written).symm⟩)
      · rw [if_neg high, if_neg wide] at written
        exact .inr (.inr (.inr ⟨rfl, rfl, (Option.some.inj written).symm⟩))
    · rw [frameChar?, if_neg ends] at written
      split at written
      · rename_i level
        exact .inl ⟨level.1, level.2.1, level.2.2, (Option.some.inj written).symm⟩
      · rw [Option.ite_none_right_eq_some] at written
        obtain ⟨⟨after, before, side⟩, written⟩ := written
        exact .inr (.inl ⟨after, before, side, (Option.some.inj written).symm⟩)

end Frame

theorem mem_marks_iff (sized : s.Sized) :
    ⟨x, y, c⟩ ∈ s.marks width ↔ s.wholeChar? width x y = some c := by
  cases s with
  | put x₀ y₀ c₀ =>
    simp only [marks, wholeChar?, List.mem_singleton, Mark.mk.injEq, Option.ite_none_right_eq_some,
      Option.some.injEq, and_assoc, @eq_comm _ c]
  | write x₀ y₀ text =>
    simp only [marks, wholeChar?, mem_writeMarks, Option.ite_none_right_eq_some, and_assoc]
  | across x₀ x₁ y₀ =>
    simp only [marks, wholeChar?, mem_acrossMarks, Option.ite_none_right_eq_some, Option.some.injEq,
      and_assoc, @eq_comm _ c]
  | upright x₀ y₀ y₁ =>
    simp only [marks, wholeChar?, mem_uprightMarks, Option.ite_none_right_eq_some,
      Option.some.injEq, and_assoc, @eq_comm _ c]
  | frame x₀ y₀ w h =>
    by_cases thin : isThin w h = true
    · simp only [marks, wholeChar?, if_pos thin, mem_acrossMarks, Option.ite_none_right_eq_some,
        Option.some.injEq, and_assoc, @eq_comm _ c]
    · simp only [marks, wholeChar?, if_neg thin]
      rw [not_isThin_iff] at thin
      exact mem_frameMarks_iff (lastOf_ne thin.1 sized.1) (lastOf_ne thin.2 sized.2)
        (lastOf_lt ..) (lastOf_lt ..)

theorem mem_made_of_torn (torn : s.Torn width height) :
    ⟨x, y, c⟩ ∈ s.made width height ↔ s.tornChar? x y = some c := by
  cases s with
  | frame x₀ y₀ w h =>
    rw [made_of_torn torn, tornSides, tornChar?]
    split
    · simp only [mem_levelSides, Option.ite_none_right_eq_some, Option.some.injEq, and_assoc,
        @eq_comm _ c]
    · simp only [mem_uprightSides, Option.ite_none_right_eq_some, Option.some.injEq, and_assoc,
        @eq_comm _ c]
  | _ => cases torn

/-- A stroke makes one mark in each cell that it reaches. -/
theorem mem_made_iff (sized : s.Sized) :
    ⟨x, y, c⟩ ∈ s.made width height ↔ s.charAt? width height x y = some c := by
  unfold charAt?
  split
  · rename_i fits
    rw [fits.made_eq, mem_marks_iff sized]
  · rename_i misfit
    split
    · rename_i torn
      exact mem_made_of_torn torn
    · rename_i whole
      rw [made_of_untorn misfit whole]
      simp

end Stroke

namespace Cell

variable {x y : Nat} {cell : Cell} {ms : List Mark}

theorem marked_marked (cell : Cell) (c : Char) : (cell.marked c).marked c = cell.marked c := by
  unfold marked
  split
  · rw [Edges.union_assoc, Edges.union_self]
  · rfl

theorem edges_marked_of_line {c : Char} {e : Edges} (line : Edges.ofChar? c = some e) :
    (cell.marked c).edges = cell.edges.union e := by
  rw [marked, line]

/-- Marks of one and the same character leave what one of them leaves. -/
theorem after_of_only {c : Char} (only : ∀ m ∈ ms, m.At x y → m.c = c)
    (some : ∃ m ∈ ms, m.At x y) : cell.after x y ms = cell.marked c := by
  induction ms generalizing cell with
  | nil => obtain ⟨m, mem, -⟩ := some; cases mem
  | cons m ms ih =>
    have later : ∀ n ∈ ms, n.At x y → n.c = c := fun n mem => only n (List.mem_cons_of_mem _ mem)
    rw [after_cons]
    by_cases again : ∃ n ∈ ms, n.At x y
    · rw [ih later again]
      split
      · rename_i here
        rw [only m (by simp) here, marked_marked]
      · rfl
    · have here : m.At x y := by
        obtain ⟨n, mem, at_⟩ := some
        rcases List.mem_cons.mp mem with rfl | mem
        · exact at_
        · exact absurd ⟨n, mem, at_⟩ again
      rw [after_of_untouched fun n mem at_ => again ⟨n, mem, at_⟩, if_pos here,
        only m (by simp) here]

/-- What a stroke leaves in a cell. -/
theorem after_made {s : Stroke} (sized : s.Sized) (width height : Nat) :
    cell.after x y (s.made width height) =
      (s.charAt? width height x y).elim cell cell.marked := by
  cases written : s.charAt? width height x y with
  | none =>
    refine after_of_untouched fun m marked here => ?_
    obtain ⟨rfl, rfl⟩ := here
    cases written.symm.trans ((Stroke.mem_made_iff sized).mp marked)
  | some c =>
    refine after_of_only (fun m marked here => ?_)
      ⟨_, (Stroke.mem_made_iff sized).mpr written, rfl, rfl⟩
    obtain ⟨rfl, rfl⟩ := here
    exact Option.some.inj (((Stroke.mem_made_iff sized).mp marked).symm.trans written)

end Cell

/-- One stroke, seen from one cell. -/
theorem Grid.cell_draw (g : Grid) {s : Stroke} (sized : s.Sized) (x y : Nat) :
    (g.draw s).1.cell x y =
      (s.charAt? g.width g.height x y).elim (g.cell x y) (g.cell x y).marked := by
  rw [(g.marked_draw s).cell, Cell.after_made sized]

end Trackplan
