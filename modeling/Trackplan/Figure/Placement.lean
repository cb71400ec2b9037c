import Trackplan.Figure.Basic

/-! Where the parts of a figure stand within it. The items of a sequence share their track row;
the paths of a branch lie one below the other; the way back of a loop is centred beneath its
body. -/
namespace Trackplan

structure Placed where
  x : Nat
  y : Nat
  figure : Figure

namespace Placed

def trackRow (p : Placed) : Nat := p.y + p.figure.rise

/-- The column after the last one. -/
def endCol (p : Placed) : Nat := p.x + p.figure.width

def shifted (dx dy : Nat) (p : Placed) : Placed := ⟨dx + p.x, dy + p.y, p.figure⟩

end Placed

namespace Figure

/-- Items on the given track row, each a gap after the one before. -/
def inRow (track : Nat) (x : Nat) : List Figure → List Placed
  | [] => []
  | f :: rest => ⟨x, track - f.rise, f⟩ :: inRow track (x + f.width + gap) rest

/-- Paths from the given row downwards. -/
def inStack (y : Nat) : List Figure → List Placed
  | [] => []
  | f :: rest => ⟨inset, y, f⟩ :: inStack (y + f.height) rest

/-- The column of a loop's way back: what room is left over goes to both sides, the odd column
to the right. -/
def backCol (body back : Figure) : Nat :=
  inset + (max body.width back.width - back.width) / 2

def children : Figure → List Placed
  | .box .. | .caption _ | .track _ => []
  | .sequence first rest => inRow (Figure.sequence first rest).rise 0 (first :: rest)
  | .branch above main below => inStack 0 (above ++ main :: below)
  | .loop body back => [⟨inset, 0, body⟩, ⟨backCol body back, body.height, back⟩]

theorem inStack_append (y : Nat) (fs gs : List Figure) :
    inStack y (fs ++ gs) = inStack y fs ++ inStack (y + stacked fs) gs := by
  induction fs generalizing y with
  | nil => simp [inStack, stacked]
  | cons f rest ih => simp [inStack, ih, stacked_cons, Nat.add_assoc]

end Figure

end Trackplan
