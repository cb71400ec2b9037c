import Trackplan.Grid.Edges

/-! A grid of character cells. Text overwrites what it meets; a line character only adds its
sides to the cell. A cell shows the sides that the neighbours answer, so that lines join where
they meet, or all of them where no neighbour answers. -/
namespace Trackplan

structure Cell where
  ink : Char
  edges : Edges
  deriving DecidableEq, Repr

/-- The cell after one character has been drawn into it. -/
def Cell.marked (cell : Cell) (c : Char) : Cell :=
  match Edges.ofChar? c with
  | some edges => ⟨cell.ink, cell.edges.union edges⟩
  | none => ⟨c, .none⟩

/-- Rows are stored one after another. -/
structure Grid where
  width : Nat
  height : Nat
  cells : Array Cell
  size_eq : cells.size = height * width

namespace Grid

inductive Fault
  | areaOverflow (width height : Nat)
  | outOfBounds (x y width height : Nat)
  deriving DecidableEq, Repr

def Fault.message : Fault → String
  | .areaOverflow width height =>
    "canvas area overflow: " ++ toString width ++ "*" ++ toString height
  | .outOfBounds x y width height =>
    "out of bounds: (" ++ toString x ++ "," ++ toString y ++ ") for " ++ toString width ++ "x" ++
      toString height ++ " canvas"

/-- Grids have fewer cells than this, the sixty-fourth power of two. -/
def areaLimit : Nat := 18446744073709551616

def blank (width height : Nat) (fill : Char) : Except Fault Grid :=
  if width * height < areaLimit
  then .ok ⟨width, height, .replicate (height * width) ⟨fill, .none⟩, by simp⟩
  else .error (.areaOverflow width height)

def fault? (g : Grid) (x y : Nat) : Option Fault :=
  if x < g.width ∧ y < g.height then none else some (.outOfBounds x y g.width g.height)

/-- A cell outside the grid carries no line. -/
def cell (g : Grid) (x y : Nat) : Cell :=
  if x < g.width then g.cells.getD (y * g.width + x) ⟨' ', .none⟩ else ⟨' ', .none⟩

def edges (g : Grid) (x y : Nat) : Edges := (g.cell x y).edges

/-- The sides of a cell that the neighbour on that side answers. -/
def answered (g : Grid) (x y : Nat) : Edges :=
  let own := g.edges x y
  ⟨own.left && 0 < x && (g.edges (x - 1) y).right,
    own.right && (g.edges (x + 1) y).left,
    own.up && 0 < y && (g.edges x (y - 1)).down,
    own.down && (g.edges x (y + 1)).up⟩

/-- The character that a cell shows. -/
def glyph (g : Grid) (x y : Nat) : Char :=
  let cell := g.cell x y
  if cell.edges = .none then cell.ink
  else
    let answered := g.answered x y
    if answered = .none then cell.edges.glyph else answered.glyph

def get (g : Grid) (x y : Nat) : Except Fault Char :=
  match g.fault? x y with
  | some fault => .error fault
  | none => .ok (g.glyph x y)

def modified (g : Grid) (index : Nat) (change : Cell → Cell) : Grid :=
  match g with
  | ⟨width, height, cells, size_eq⟩ =>
    ⟨width, height, cells.modify index change, by simpa using size_eq⟩

/-- The grid with a character drawn into a cell, which has to lie inside. -/
def inked (g : Grid) (x y : Nat) (c : Char) : Grid :=
  let width := g.width
  g.modified (y * width + x) (·.marked c)

def put (g : Grid) (x y : Nat) (c : Char) : Except Fault Grid :=
  match g.fault? x y with
  | some fault => .error fault
  | none => .ok (g.inked x y c)

theorem fault?_eq_none {g : Grid} {x y : Nat} :
    g.fault? x y = none ↔ x < g.width ∧ y < g.height := by
  unfold fault?; split <;> simp_all

theorem index_lt {g : Grid} {x y : Nat} (hx : x < g.width) (hy : y < g.height) :
    y * g.width + x < g.cells.size := by
  rw [g.size_eq]
  calc y * g.width + x < y * g.width + g.width := by omega
    _ = (y + 1) * g.width := by rw [Nat.add_mul, Nat.one_mul]
    _ ≤ g.height * g.width := Nat.mul_le_mul_right _ hy

theorem index_inj {width x y x' y' : Nat} (hx : x < width) (hx' : x' < width)
    (h : y * width + x = y' * width + x') : x = x' ∧ y = y' := by
  have mods := congrArg (· % width) h
  have divs := congrArg (· / width) h
  simp only [Nat.mul_comm _ width, Nat.mul_add_mod, Nat.mod_eq_of_lt hx,
    Nat.mod_eq_of_lt hx'] at mods
  simp only [Nat.mul_comm _ width, Nat.mul_add_div (Nat.lt_of_le_of_lt (Nat.zero_le x) hx),
    Nat.div_eq_of_lt hx, Nat.div_eq_of_lt hx', Nat.add_zero] at divs
  exact ⟨mods, divs⟩

@[simp] theorem width_modified (g : Grid) (index : Nat) (change : Cell → Cell) :
    (g.modified index change).width = g.width := rfl

@[simp] theorem height_modified (g : Grid) (index : Nat) (change : Cell → Cell) :
    (g.modified index change).height = g.height := rfl

theorem cell_outside {g : Grid} {x y : Nat} (h : ¬ (x < g.width ∧ y < g.height)) :
    g.cell x y = ⟨' ', .none⟩ := by
  unfold cell
  split
  · rename_i hx
    have hy : g.height ≤ y := Nat.le_of_not_lt fun hy => h ⟨hx, hy⟩
    have : g.cells.size ≤ y * g.width + x := by
      rw [g.size_eq]
      exact Nat.le_trans (Nat.mul_le_mul_right _ hy) (Nat.le_add_right _ _)
    rw [Array.getD_eq_getD_getElem?, Array.getElem?_eq_none this, Option.getD_none]
  · rfl

/-- Drawing into a cell changes that cell and no other. -/
theorem cell_put {g g' : Grid} {x y : Nat} {c : Char} (h : g.put x y c = .ok g')
    (x' y' : Nat) :
    g'.cell x' y' = if x' = x ∧ y' = y then (g.cell x y).marked c else g.cell x' y' := by
  unfold put at h
  split at h
  · cases h
  rename_i inside
  obtain ⟨hx, hy⟩ := fault?_eq_none.1 inside
  injection h with h
  subst h
  unfold cell inked
  simp only [width_modified]
  by_cases hx' : x' < g.width
  · simp only [hx', hx, if_true, Array.getD_eq_getD_getElem?]
    change ((g.cells.modify (y * g.width + x) (·.marked c))[y' * g.width + x']?).getD _ = _
    rw [Array.getElem?_modify]
    by_cases same : x' = x ∧ y' = y
    · obtain ⟨rfl, rfl⟩ := same
      simp only [if_true, and_self, Array.getElem?_eq_getElem (index_lt hx hy), Option.map_some,
        Option.getD_some]
    · rw [if_neg, if_neg same]
      intro eq
      obtain ⟨rfl, rfl⟩ := index_inj hx hx' eq
      exact same ⟨rfl, rfl⟩
  · have : ¬ (x' = x ∧ y' = y) := fun same => hx' (same.1 ▸ hx)
    simp [hx', this]

end Grid

end Trackplan
