/-! The line ends of a cell: which of its four sides a line reaches. Line characters stand for
sets of sides, and the union of sets is how lines join. -/
namespace Trackplan

structure Edges where
  left : Bool
  right : Bool
  up : Bool
  down : Bool
  deriving DecidableEq, Repr

namespace Edges

def none : Edges := ⟨false, false, false, false⟩

def union (a b : Edges) : Edges :=
  ⟨a.left || b.left, a.right || b.right, a.up || b.up, a.down || b.down⟩

def across : Edges := ⟨true, true, false, false⟩
def upright : Edges := ⟨false, false, true, true⟩

/-- The sides of a line character; any other character has none and is text. -/
def ofChar? : Char → Option Edges
  | '─' => some across
  | '│' => some upright
  | '┌' => some ⟨false, true, false, true⟩
  | '┐' => some ⟨true, false, false, true⟩
  | '└' => some ⟨false, true, true, false⟩
  | '┘' => some ⟨true, false, true, false⟩
  | '├' => some ⟨false, true, true, true⟩
  | '┤' => some ⟨true, false, true, true⟩
  | '┬' => some ⟨true, true, false, true⟩
  | '┴' => some ⟨true, true, true, false⟩
  | '┼' => some ⟨true, true, true, true⟩
  | _ => Option.none

/-- A line with one end shows as a whole line. -/
def glyph : Edges → Char
  | ⟨false, false, false, false⟩ => ' '
  | ⟨_, _, false, false⟩ => '─'
  | ⟨false, false, _, _⟩ => '│'
  | ⟨false, true, false, true⟩ => '┌'
  | ⟨true, false, false, true⟩ => '┐'
  | ⟨false, true, true, false⟩ => '└'
  | ⟨true, false, true, false⟩ => '┘'
  | ⟨false, true, true, true⟩ => '├'
  | ⟨true, false, true, true⟩ => '┤'
  | ⟨true, true, false, true⟩ => '┬'
  | ⟨true, true, true, false⟩ => '┴'
  | ⟨true, true, true, true⟩ => '┼'

theorem union_assoc (a b c : Edges) : (a.union b).union c = a.union (b.union c) := by
  simp [union, Bool.or_assoc]

theorem union_self (a : Edges) : a.union a = a := by simp [union]

end Edges

end Trackplan
