import Trackplan.Grid.Basic
import Trackplan.Text.Trim

/-! A grid as text, whole or without the blanks at the end of its lines and the blank lines at
its end. -/
namespace Trackplan.Grid

def row (g : Grid) (y : Nat) : List Char := (List.range g.width).map (g.glyph · y)

def rows (g : Grid) : List (List Char) := (List.range g.height).map g.row

def trimmedRows (g : Grid) : List (List Char) :=
  Text.dropTrailing List.isEmpty (g.rows.map (Text.dropTrailing (· = ' ')))

def linesText (lines : List (List Char)) : String := "\n".intercalate (lines.map .ofList)

def text (g : Grid) : String := linesText g.rows

def trimmedText (g : Grid) : String := linesText g.trimmedRows

@[simp] theorem length_row (g : Grid) (y : Nat) : (g.row y).length = g.width := by simp [row]

@[simp] theorem length_rows (g : Grid) : g.rows.length = g.height := by simp [rows]

end Trackplan.Grid
