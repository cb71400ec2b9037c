import Trackplan.Figure.OfDiagram
import Trackplan.Figure.Placement

/-! The plan of a diagram: its figure between a start and an end marker, with one column of track
next to each. -/
namespace Trackplan

structure Plan where
  figure : Figure

namespace Plan

def ofDiagram (style : Style) (d : Diagram) : Plan := ⟨.ofNode style d.root⟩

def root (plan : Plan) : Placed := ⟨2, 0, plan.figure⟩

def width (plan : Plan) : Nat := plan.figure.width + 4

def height (plan : Plan) : Nat := plan.figure.height

def trackRow (plan : Plan) : Nat := plan.figure.rise

end Plan

end Trackplan
