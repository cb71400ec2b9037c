import Trackplan.Grid.Basic

/-! Strokes: what can be drawn on a grid in one go. A stroke first looks at its far cells and
then marks its cells one by one; marks made before a cell outside the grid is met stay. -/
namespace Trackplan

/-- Lines are given by their two ends, in either order; a frame by its corner and size. -/
inductive Stroke
  | put (x y : Nat) (c : Char)
  | write (x y : Nat) (text : String)
  | across (x₀ x₁ y : Nat)
  | upright (x y₀ y₁ : Nat)
  | frame (x y width height : Nat)
  deriving DecidableEq, Repr

structure Mark where
  x : Nat
  y : Nat
  c : Char
  deriving DecidableEq, Repr

namespace Stroke

/-- The numbers from the lesser to the greater end, both included. -/
def span (a b : Nat) : List Nat := .range' (min a b) (max a b + 1 - min a b)

def acrossMarks (x₀ x₁ y : Nat) : List Mark := (span x₀ x₁).map (⟨·, y, '─'⟩)

def uprightMarks (x y₀ y₁ : Nat) : List Mark := (span y₀ y₁).map (⟨x, ·, '│'⟩)

/-- Text from a column rightwards; what lies beyond the last column is dropped. -/
def writeMarks (columns x y : Nat) (text : List Char) : List Mark :=
  ((text.take (columns - x)).zipIdx x).map fun (c, column) => ⟨column, y, c⟩

/-- Sums are machine words: beyond the last word they start over at zero. -/
def wrapped (n : Nat) : Nat := n % Grid.areaLimit

def nextOf (n : Nat) : Nat := wrapped (n + 1)

/-- The last of so many cells in a row, and the first one if there are none. -/
def lastOf (first count : Nat) : Nat := wrapped (first + (count - 1))

/-- The upper and lower sides of a frame from a column to its last one, which is left out. -/
def levelSides (column right y bottom : Nat) : List Mark :=
  (List.range' column (right - column)).flatMap
    fun column => [⟨column, y, '─'⟩, ⟨column, bottom, '─'⟩]

/-- The left and right sides of a frame from a row to its last one, which is left out. -/
def uprightSides (row bottom x right : Nat) : List Mark :=
  (List.range' row (bottom - row)).flatMap fun row => [⟨x, row, '│'⟩, ⟨right, row, '│'⟩]

def corners (x y right bottom : Nat) : List Mark :=
  [⟨x, y, '┌'⟩, ⟨right, y, '┐'⟩, ⟨x, bottom, '└'⟩, ⟨right, bottom, '┘'⟩]

/-- A frame of two rows and columns at least: the sides without their ends, then the corners. -/
def frameMarks (x y right bottom : Nat) : List Mark :=
  levelSides (nextOf x) right y bottom ++ uprightSides (nextOf y) bottom x right ++
    corners x y right bottom

/-- A frame of a single row or column is drawn as a line over its top row. -/
def isThin (width height : Nat) : Bool := width < 2 || height < 2

/-- The two ends of a level line. -/
def acrossProbes (x₀ x₁ y : Nat) : List (Nat × Nat) := [(min x₀ x₁, y), (max x₀ x₁, y)]

/-- The cells that are looked at before anything is marked. -/
def probes (columns : Nat) : Stroke → List (Nat × Nat)
  | .put x y _ => [(x, y)]
  | .write x y _ => [(min x (columns - 1), y)]
  | .across x₀ x₁ y => acrossProbes x₀ x₁ y
  | .upright x y₀ y₁ => [(x, min y₀ y₁), (x, max y₀ y₁)]
  | .frame x y width height =>
    if isThin width height then acrossProbes x (lastOf x width) y
    else [(lastOf x width, lastOf y height)]

def marks (columns : Nat) : Stroke → List Mark
  | .put x y c => [⟨x, y, c⟩]
  | .write x y text => writeMarks columns x y text.toList
  | .across x₀ x₁ y => acrossMarks x₀ x₁ y
  | .upright x y₀ y₁ => uprightMarks x y₀ y₁
  | .frame x y width height =>
    if isThin width height then acrossMarks x (lastOf x width) y
    else frameMarks x y (lastOf x width) (lastOf y height)

end Stroke

namespace Grid

/-- Makes the marks in turn and stops at the first one outside the grid. -/
def mark (g : Grid) : List Mark → Grid × Option Fault
  | [] => (g, none)
  | m :: rest =>
    match g.fault? m.x m.y with
    | none => (g.inked m.x m.y m.c).mark rest
    | some fault => (g, some fault)

def draw (g : Grid) (stroke : Stroke) : Grid × Option Fault :=
  match (stroke.probes g.width).findSome? fun (x, y) => g.fault? x y with
  | some fault => (g, some fault)
  | none =>
    let width := g.width
    g.mark (stroke.marks width)

/-- Draws the strokes in turn and stops at the first fault. -/
def drawAll (g : Grid) : List Stroke → Grid × Option Fault
  | [] => (g, none)
  | stroke :: rest =>
    match g.draw stroke with
    | (g, none) => g.drawAll rest
    | (g, some fault) => (g, some fault)

end Grid

end Trackplan
