import Mathlib.Data.List.TakeWhile
import Trackplan.Proofs.Strokes

/-! What a cell holds after some marks. Only the marks made in that cell count, and as long as no
text is among them a side is reached as soon as one mark reaches it. -/
namespace Trackplan

inductive Side
  | left
  | right
  | up
  | down
  deriving DecidableEq, Repr

def Edges.reach (e : Edges) : Side → Bool
  | .left => e.left
  | .right => e.right
  | .up => e.up
  | .down => e.down

namespace Mark

def At (m : Mark) (x y : Nat) : Prop := m.x = x ∧ m.y = y

instance (m : Mark) (x y : Nat) : Decidable (m.At x y) := inferInstanceAs (Decidable (_ ∧ _))

/-- The mark lies on a grid of that size. -/
def Inside (width height : Nat) (m : Mark) : Prop := m.x < width ∧ m.y < height

instance (width height : Nat) (m : Mark) : Decidable (m.Inside width height) :=
  inferInstanceAs (Decidable (_ ∧ _))

/-- The mark writes a character that is no line. -/
def IsText (m : Mark) : Prop := Edges.ofChar? m.c = none

/-- The mark draws a line to that side of its cell. -/
def Reaches (m : Mark) (side : Side) : Prop :=
  ∃ edges, Edges.ofChar? m.c = some edges ∧ edges.reach side = true

theorem Reaches.not_isText {m : Mark} {side : Side} (reaches : m.Reaches side) : ¬ m.IsText := by
  obtain ⟨edges, drawn, -⟩ := reaches
  rw [IsText, drawn]
  exact Option.some_ne_none edges

theorem not_reaches {m : Mark} {edges : Edges} {side : Side}
    (drawn : Edges.ofChar? m.c = some edges) (closed : edges.reach side = false) :
    ¬ m.Reaches side := by
  rintro ⟨edges', drawn', reach⟩
  cases drawn.symm.trans drawn'
  exact absurd (closed.symm.trans reach) Bool.false_ne_true

end Mark

/-- The stroke draws nothing but lines. -/
def Stroke.IsLine : Stroke → Prop
  | .put .. | .write .. => False
  | .across .. | .upright .. | .frame .. => True

theorem Stroke.not_isText {s : Stroke} {m : Mark} {columns : Nat}
    (marked : m ∈ s.plainMarks columns) (line : s.IsLine) : ¬ m.IsText := by
  unfold Mark.IsText
  cases s with
  | put | write => cases line
  | across => rw [(mem_acrossMarks.mp marked).2.2.2]; decide
  | upright => rw [(mem_uprightMarks.mp marked).2.2.2]; decide
  | frame =>
    simp only [plainMarks] at marked
    split at marked
    · rw [(mem_acrossMarks.mp marked).2.2.2]; decide
    · rcases mem_borderMarks.mp marked with ⟨-, -, -, line⟩ | ⟨-, -, -, line⟩ | rfl | rfl | rfl | rfl
      · rw [line]; decide
      · rw [line]; decide
      all_goals exact Option.some_ne_none _

/-- The marks that a stroke makes on a grid of that size: none if it looks at a cell outside, and
otherwise all up to the first one outside. -/
def Stroke.made (width height : Nat) (s : Stroke) : List Mark :=
  if ∀ p ∈ s.probes width, p.1 < width ∧ p.2 < height then
    (s.marks width).takeWhile (·.Inside width height)
  else []

theorem Stroke.Fits.made_eq {s : Stroke} {width height : Nat} (fits : s.Fits width height) :
    s.made width height = s.marks width := by
  rw [made, if_pos fun _ probed => fits.has_probe probed]
  exact List.takeWhile_eq_self_iff.mpr fun _ marked => decide_eq_true (fits.has_mark marked)

namespace Cell

variable {x y : Nat} {cell : Cell} {m : Mark} {ms : List Mark} {side : Side}

/-- What a cell holds after the marks, if it stands at the given place. -/
def after (x y : Nat) (cell : Cell) (ms : List Mark) : Cell :=
  ms.foldl (fun cell m => if m.At x y then cell.marked m.c else cell) cell

@[simp] theorem after_nil : cell.after x y [] = cell := rfl

theorem after_cons : cell.after x y (m :: ms) =
    (if m.At x y then cell.marked m.c else cell).after x y ms := rfl

theorem after_append (ms ns : List Mark) :
    cell.after x y (ms ++ ns) = (cell.after x y ms).after x y ns := List.foldl_append

theorem reach_marked (cell : Cell) (m : Mark) (side : Side) :
    (cell.marked m.c).edges.reach side = true ↔
      m.Reaches side ∨ ¬ m.IsText ∧ cell.edges.reach side = true := by
  unfold marked Mark.Reaches Mark.IsText
  cases drawn : Edges.ofChar? m.c with
  | none => cases side <;> simp [Edges.reach, Edges.none]
  | some edges => cases side <;> simp [Edges.reach, Edges.union, or_comm]

/-- A side that a cell reaches was there before or was drawn. -/
theorem reach_after (reach : (cell.after x y ms).edges.reach side = true) :
    cell.edges.reach side = true ∨ ∃ m ∈ ms, m.At x y ∧ m.Reaches side := by
  induction ms generalizing cell with
  | nil => exact .inl reach
  | cons m ms ih =>
    rw [after_cons] at reach
    rcases ih reach with before | ⟨n, mem, found⟩
    · split at before
      · rename_i here
        rcases (reach_marked cell m side).mp before with drawn | ⟨-, before⟩
        · exact .inr ⟨m, by simp, here, drawn⟩
        · exact .inl before
      · exact .inl before
    · exact .inr ⟨n, List.mem_cons_of_mem _ mem, found⟩

theorem reach_kept (clear : ∀ m ∈ ms, m.At x y → ¬ m.IsText)
    (reach : cell.edges.reach side = true) : (cell.after x y ms).edges.reach side = true := by
  induction ms generalizing cell with
  | nil => exact reach
  | cons m ms ih =>
    rw [after_cons]
    refine ih (fun n mem => clear n (List.mem_cons_of_mem _ mem)) ?_
    split
    · exact (reach_marked cell m side).mpr (.inr ⟨clear m (by simp) ‹_›, reach⟩)
    · exact reach

/-- A side once drawn stays where no text is written. -/
theorem reach_of_mark (clear : ∀ m ∈ ms, m.At x y → ¬ m.IsText) (mem : m ∈ ms) (here : m.At x y)
    (drawn : m.Reaches side) : (cell.after x y ms).edges.reach side = true := by
  obtain ⟨before, after, rfl⟩ := List.append_of_mem mem
  rw [after_append, after_cons, if_pos here]
  refine reach_kept (fun n later => clear n ?_) ((reach_marked _ m side).mpr (.inl drawn))
  exact List.mem_append_right _ (List.mem_cons_of_mem _ later)

theorem after_of_untouched (untouched : ∀ m ∈ ms, ¬ m.At x y) : cell.after x y ms = cell := by
  induction ms with
  | nil => rfl
  | cons m ms ih =>
    rw [after_cons, if_neg (untouched m (by simp))]
    exact ih fun n mem => untouched n (List.mem_cons_of_mem _ mem)

/-- A character that is written and never drawn over stays. -/
theorem after_of_text {c : Char} (text : Edges.ofChar? c = none)
    (only : ∀ m ∈ ms, m.At x y → m.c = c)
    (written : cell = ⟨c, .none⟩ ∨ ∃ m ∈ ms, m.At x y) : cell.after x y ms = ⟨c, .none⟩ := by
  induction ms generalizing cell with
  | nil => simpa using written
  | cons m ms ih =>
    rw [after_cons]
    refine ih (fun n mem => only n (List.mem_cons_of_mem _ mem)) ?_
    by_cases here : m.At x y
    · rw [if_pos here, only m (by simp) here, marked, text]
      exact .inl rfl
    · rw [if_neg here]
      refine written.imp_right ?_
      rintro ⟨n, mem, there⟩
      rcases List.mem_cons.mp mem with rfl | mem
      · exact absurd there here
      · exact ⟨n, mem, there⟩

/-- What a cell has besides its lines was there before or is text that was written in it. -/
theorem ink_after : (cell.after x y ms).ink = cell.ink ∨
    ∃ m ∈ ms, m.At x y ∧ m.IsText ∧ (cell.after x y ms).ink = m.c := by
  induction ms generalizing cell with
  | nil => exact .inl rfl
  | cons m ms ih =>
    rw [after_cons]
    rcases @ih (if m.At x y then cell.marked m.c else cell) with same | ⟨n, mem, found⟩
    · rw [same]
      by_cases here : m.At x y
      · rw [if_pos here]
        cases drawn : Edges.ofChar? m.c with
        | none => exact .inr ⟨m, by simp, here, drawn, by rw [marked, drawn]⟩
        | some edges => exact .inl (by rw [marked, drawn])
      · rw [if_neg here]
        exact .inl rfl
    · exact .inr ⟨n, List.mem_cons_of_mem _ mem, found⟩

end Cell

namespace Grid

def area (g : Grid) : Area := ⟨0, g.width, 0, g.height⟩

/-- The second grid is the first one after the marks. -/
structure Marked (g g' : Grid) (ms : List Mark) : Prop where
  width : g'.width = g.width
  height : g'.height = g.height
  cell : ∀ x y, g'.cell x y = (g.cell x y).after x y ms

variable {g g' g'' : Grid} {ms ns : List Mark}

theorem Marked.nil (g : Grid) : Marked g g [] := ⟨rfl, rfl, fun _ _ => rfl⟩

theorem Marked.append (first : Marked g g' ms) (second : Marked g' g'' ns) :
    Marked g g'' (ms ++ ns) where
  width := second.width.trans first.width
  height := second.height.trans first.height
  cell x y := by rw [second.cell, first.cell, Cell.after_append]

theorem Marked.area (marked : Marked g g' ms) : g'.area = g.area := by
  rw [Grid.area, marked.width, marked.height, Grid.area]

theorem fault?_of_has {x y : Nat} (has : g.area.Has x y) : g.fault? x y = none :=
  fault?_eq_none.mpr ⟨has.2.1, has.2.2.2⟩

theorem marked_inked {m : Mark} (has : g.area.Has m.x m.y) :
    Marked g (g.inked m.x m.y m.c) [m] := by
  have put : g.put m.x m.y m.c = .ok (g.inked m.x m.y m.c) := by rw [put, fault?_of_has has]
  refine ⟨rfl, rfl, fun x y => ?_⟩
  rw [cell_put put, Cell.after_cons, Cell.after_nil]
  by_cases here : m.At x y
  · obtain ⟨rfl, rfl⟩ := here
    simp [Mark.At]
  · rw [if_neg here, if_neg fun same => here ⟨same.1.symm, same.2.symm⟩]

theorem mark_cons_of_inside {m : Mark} (inside : m.Inside g.width g.height) (ms : List Mark) :
    g.mark (m :: ms) = (g.inked m.x m.y m.c).mark ms := by
  rw [mark, fault?_eq_none.mpr inside]

theorem mark_cons_of_fault {m : Mark} {fault : Fault} (faulty : g.fault? m.x m.y = some fault)
    (ms : List Mark) : g.mark (m :: ms) = (g, some fault) := by
  rw [mark, faulty]

theorem fault?_of_not_inside {m : Mark} (outside : ¬ m.Inside g.width g.height) :
    g.fault? m.x m.y = some (.outOfBounds m.x m.y g.width g.height) := if_neg outside

/-- Marks are made in turn up to the first one outside the grid. -/
theorem marked_mark (g : Grid) (ms : List Mark) :
    Marked g (g.mark ms).1 (ms.takeWhile (·.Inside g.width g.height)) := by
  induction ms generalizing g with
  | nil => exact .nil g
  | cons m ms ih =>
    rw [List.takeWhile_cons]
    by_cases inside : m.Inside g.width g.height
    · rw [mark_cons_of_inside inside, if_pos (decide_eq_true inside)]
      exact (marked_inked ⟨Nat.zero_le _, inside.1, Nat.zero_le _, inside.2⟩).append (ih _)
    · rw [mark_cons_of_fault (fault?_of_not_inside inside), if_neg (by simpa using inside)]
      exact .nil g

theorem mark_fault_eq_none : (g.mark ms).2 = none ↔ ∀ m ∈ ms, m.Inside g.width g.height := by
  induction ms generalizing g with
  | nil => exact iff_of_true rfl fun m none => nomatch none
  | cons m ms ih =>
    rw [List.forall_mem_cons]
    by_cases inside : m.Inside g.width g.height
    · rw [mark_cons_of_inside inside, and_iff_right inside]
      exact ih
    · rw [mark_cons_of_fault (fault?_of_not_inside inside)]
      exact iff_of_false (Option.some_ne_none _) fun all => inside all.1

/-- A fault names a cell that the grid does not have. -/
def Outside (g : Grid) (fault : Fault) : Prop :=
  ∃ x y, fault = .outOfBounds x y g.width g.height ∧ ¬ g.area.Has x y

theorem outside_of_fault? {x y : Nat} {fault : Fault} (faulty : g.fault? x y = some fault) :
    g.Outside fault := by
  refine ⟨x, y, ?_, fun has => ?_⟩
  · rw [fault?, Option.ite_none_left_eq_some] at faulty
    exact (Option.some.inj faulty.2).symm
  · rw [fault?_of_has has] at faulty
    cases faulty

theorem outside_of_mark {fault : Fault} (failed : (g.mark ms).2 = some fault) :
    g.Outside fault := by
  induction ms generalizing g with
  | nil => cases failed
  | cons m ms ih =>
    cases faulty : g.fault? m.x m.y with
    | none =>
      rw [mark_cons_of_inside (fault?_eq_none.mp faulty)] at failed
      exact ih (g := g.inked m.x m.y m.c) failed
    | some other =>
      rw [mark_cons_of_fault faulty] at failed
      exact Option.some.inj failed ▸ outside_of_fault? faulty

theorem draw_of_probed {s : Stroke}
    (probed : ∀ p ∈ s.probes g.width, p.1 < g.width ∧ p.2 < g.height) :
    g.draw s = g.mark (s.marks g.width) := by
  unfold draw
  split
  · rename_i fault failed
    obtain ⟨p, mem, faulty⟩ := List.exists_of_findSome?_eq_some failed
    have inside : g.fault? p.1 p.2 = none := fault?_eq_none.mpr (probed p mem)
    exact absurd (faulty.symm.trans inside) (Option.some_ne_none fault)
  · rfl

/-- A stroke that looks at a cell outside the grid goes no further. -/
theorem draw_of_missed {s : Stroke}
    (missed : ¬ ∀ p ∈ s.probes g.width, p.1 < g.width ∧ p.2 < g.height) :
    ∃ fault, g.draw s = (g, some fault) ∧ g.Outside fault := by
  unfold draw
  split
  · rename_i fault failed
    obtain ⟨⟨x, y⟩, -, faulty⟩ := List.exists_of_findSome?_eq_some failed
    exact ⟨fault, rfl, outside_of_fault? faulty⟩
  · rename_i none
    exact absurd (fun p mem => fault?_eq_none.mp (List.findSome?_eq_none_iff.mp none p mem)) missed

/-- One stroke, whether it succeeds or not. -/
theorem marked_draw (g : Grid) (s : Stroke) : Marked g (g.draw s).1 (s.made g.width g.height) := by
  by_cases probed : ∀ p ∈ s.probes g.width, p.1 < g.width ∧ p.2 < g.height
  · rw [draw_of_probed probed, Stroke.made, if_pos probed]
    exact g.marked_mark _
  · obtain ⟨fault, kept, -⟩ := draw_of_missed probed
    rw [kept, Stroke.made, if_neg probed]
    exact .nil g

/-- Only what fits is drawn. -/
theorem draw_fault_eq_none {s : Stroke} : (g.draw s).2 = none ↔ s.Fits g.width g.height := by
  by_cases probed : ∀ p ∈ s.probes g.width, p.1 < g.width ∧ p.2 < g.height
  · rw [draw_of_probed probed, mark_fault_eq_none]
    exact ⟨Stroke.fits_of_inside probed, fun fits m marked => fits.has_mark marked⟩
  · obtain ⟨fault, failed, -⟩ := draw_of_missed probed
    rw [failed]
    exact iff_of_false (Option.some_ne_none _) fun fits => probed fun p mem => fits.has_probe mem

theorem outside_of_draw {s : Stroke} {fault : Fault} (failed : (g.draw s).2 = some fault) :
    g.Outside fault := by
  by_cases probed : ∀ p ∈ s.probes g.width, p.1 < g.width ∧ p.2 < g.height
  · rw [draw_of_probed probed] at failed
    exact outside_of_mark failed
  · obtain ⟨other, missed, outside⟩ := draw_of_missed probed
    rw [missed] at failed
    exact Option.some.inj failed ▸ outside

/-- A stroke within the grid is drawn to its end. -/
theorem draw_of_within {s : Stroke} (within : s.Within g.area) (wide : g.width ≤ areaLimit)
    (high : g.height ≤ areaLimit) :
    ∃ g', g.draw s = (g', none) ∧ Marked g g' (s.plainMarks g.width) := by
  have fits : s.Fits g.width g.height := within.fits
  have marked := g.marked_draw s
  rw [fits.made_eq, within.marks_eq wide high] at marked
  exact ⟨(g.draw s).1, Prod.ext rfl (draw_fault_eq_none.mpr fits), marked⟩

theorem drawAll_of_within {strokes : List Stroke} (within : ∀ s ∈ strokes, s.Within g.area)
    (wide : g.width ≤ areaLimit) (high : g.height ≤ areaLimit) :
    ∃ g', g.drawAll strokes = (g', none) ∧
      Marked g g' (strokes.flatMap (·.plainMarks g.width)) := by
  induction strokes generalizing g with
  | nil => exact ⟨g, rfl, .nil g⟩
  | cons s strokes ih =>
    obtain ⟨g', drawn, first⟩ := draw_of_within (within s (by simp)) wide high
    have later : ∀ t ∈ strokes, t.Within g'.area := fun t mem => by
      rw [first.area]; exact within t (List.mem_cons_of_mem _ mem)
    obtain ⟨g'', all, rest⟩ := ih later (first.width ▸ wide) (first.height ▸ high)
    refine ⟨g'', by rw [drawAll, drawn]; exact all, ?_⟩
    rw [List.flatMap_cons]
    exact first.append (first.width ▸ rest)

theorem cell_blank {width height x y : Nat} {fill : Char} (ok : blank width height fill = .ok g)
    (has : x < width ∧ y < height) : g.cell x y = ⟨fill, .none⟩ := by
  unfold blank at ok
  split at ok
  · injection ok with eq
    subst eq
    have room : y * width + x < height * width :=
      calc y * width + x < y * width + width := Nat.add_lt_add_left has.1 _
        _ = (y + 1) * width := (Nat.succ_mul y width).symm
        _ ≤ height * width := Nat.mul_le_mul_right _ has.2
    simp [cell, has.1, Array.getD, room]
  · cases ok

theorem blank_of_fits {width height : Nat} (fits : width * height < areaLimit) (fill : Char) :
    ∃ g, blank width height fill = .ok g ∧ g.width = width ∧ g.height = height := by
  refine ⟨_, by rw [blank, if_pos fits], rfl, rfl⟩

end Grid

end Trackplan
