import Trackplan.Plan

/-! Rectangles of cells, and the parts of a figure at any depth where they stand on the grid. -/
namespace Trackplan

/-- From the first column and row up to the column and row after the last. -/
structure Area where
  left : Nat
  right : Nat
  top : Nat
  bottom : Nat
  deriving DecidableEq, Repr

namespace Area

variable {a b c : Area} {x y : Nat}

def Has (a : Area) (x y : Nat) : Prop := a.left ≤ x ∧ x < a.right ∧ a.top ≤ y ∧ y < a.bottom

def Inside (a b : Area) : Prop :=
  b.left ≤ a.left ∧ a.right ≤ b.right ∧ b.top ≤ a.top ∧ a.bottom ≤ b.bottom

def shifted (dx dy : Nat) (a : Area) : Area :=
  ⟨dx + a.left, dx + a.right, dy + a.top, dy + a.bottom⟩

/-- No cell lies in both. -/
def Apart (a b : Area) : Prop := ∀ x y, a.Has x y → ¬ b.Has x y

theorem Inside.refl (a : Area) : a.Inside a := by simp [Inside]

theorem Inside.trans (first : a.Inside b) (second : b.Inside c) : a.Inside c := by
  simp only [Inside] at *; omega

theorem Has.mono (inside : a.Inside b) (has : a.Has x y) : b.Has x y := by
  simp only [Inside, Has] at *; omega

theorem Inside.shifted (inside : a.Inside b) (dx dy : Nat) :
    (a.shifted dx dy).Inside (b.shifted dx dy) := by
  simp only [Inside, Area.shifted] at *; omega

theorem Apart.symm (apart : a.Apart b) : b.Apart a := fun x y hasb hasa => apart x y hasa hasb

theorem apart_of_columns (h : a.right ≤ b.left) : a.Apart b := by
  intro x y hasa hasb; simp only [Has] at *; omega

theorem apart_of_rows (h : a.bottom ≤ b.top) : a.Apart b := by
  intro x y hasa hasb; simp only [Has] at *; omega

end Area

/-- The rectangle of a figure that stands in the corner. -/
def Figure.area (f : Figure) : Area := ⟨0, f.width, 0, f.height⟩

def Plan.area (plan : Plan) : Area := ⟨0, plan.width, 0, plan.height⟩

namespace Placed

/-- The row after the last one. -/
def endRow (p : Placed) : Nat := p.y + p.figure.height

def area (p : Placed) : Area := ⟨p.x, p.endCol, p.y, p.endRow⟩

/-- The parts of a figure, placed where they stand on the grid. -/
def parts (p : Placed) : List Placed := p.figure.children.map (·.shifted p.x p.y)

/-- The figure itself, its parts, their parts and so on. -/
inductive Holds (whole : Placed) : Placed → Prop
  | self : Holds whole whole
  | part {p q : Placed} : Holds whole p → q ∈ p.parts → Holds whole q

theorem Holds.trans {whole p q : Placed} (outer : whole.Holds p) (inner : p.Holds q) :
    whole.Holds q := by
  induction inner with
  | self => exact outer
  | part _ part ih => exact ih.part part

theorem x_shifted (dx dy : Nat) (p : Placed) : (p.shifted dx dy).x = dx + p.x := rfl

theorem y_shifted (dx dy : Nat) (p : Placed) : (p.shifted dx dy).y = dy + p.y := rfl

theorem figure_shifted (dx dy : Nat) (p : Placed) : (p.shifted dx dy).figure = p.figure := rfl

theorem endCol_shifted (dx dy : Nat) (p : Placed) : (p.shifted dx dy).endCol = dx + p.endCol := by
  simp only [endCol, x_shifted, figure_shifted]; omega

theorem endRow_shifted (dx dy : Nat) (p : Placed) : (p.shifted dx dy).endRow = dy + p.endRow := by
  simp only [endRow, y_shifted, figure_shifted]; omega

theorem trackRow_shifted (dx dy : Nat) (p : Placed) :
    (p.shifted dx dy).trackRow = dy + p.trackRow := by
  simp only [trackRow, y_shifted, figure_shifted]; omega

theorem area_shifted (dx dy : Nat) (p : Placed) :
    (p.shifted dx dy).area = p.area.shifted dx dy := by
  simp only [area, endCol_shifted, endRow_shifted, x_shifted, y_shifted, Area.shifted]

theorem area_eq (p : Placed) : p.area = p.figure.area.shifted p.x p.y := by
  simp only [area, Figure.area, Area.shifted, endCol, endRow, Nat.add_zero]

end Placed

end Trackplan
