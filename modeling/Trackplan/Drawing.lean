import Trackplan.Grid.Stroke
import Trackplan.Grid.Text
import Trackplan.Plan

/-! Drawing a plan. Every connecting line includes the first or last column of the figure it
leads to, so that the side of a box and the line become a junction. -/
namespace Trackplan

namespace Figure

/-- The row of a branch's last track, counted from its top. -/
def lastTrack (above : List Figure) (main : Figure) (below : List Figure) : Nat :=
  (Figure.branch above main below).height - (below.getLastD main).fall

/-- A part with a line to it from the left and a line from it to the right. -/
def joined (left right x row : Nat) (part : Figure) (strokes : List Stroke) : List Stroke :=
  .across left x row :: strokes ++ [.across (x + part.width - 1) right row]

mutual

/-- The strokes of a figure whose upper left corner is at the given cell. -/
def strokes (x y : Nat) : Figure → List Stroke
  | .box shape label =>
    let f := Figure.box shape label
    [.frame x y f.width f.height, .write (x + 2) (y + f.rise) label]
  | .caption text =>
    let f := Figure.caption text
    [.write (x + 1) y text, .across x (x + f.exitCol) (y + f.rise)]
  | .track length => [.across x (x + (Figure.track length).exitCol) y]
  | .sequence first rest =>
    let track := y + (Figure.sequence first rest).rise
    strokes x (track - first.rise) first ++ rowStrokes track (x + first.width) rest
  | .branch above main below =>
    let f := Figure.branch above main below
    let last := x + f.exitCol
    let right := last - 1
    let top := y + (above.headD main).rise
    let bottom := y + lastTrack above main below
    let mainTop := y + stacked above
    [.across x (x + 1) (y + f.rise), .across right last (y + f.rise),
      .upright (x + 1) top bottom, .upright right top bottom] ++
    stackStrokes x right y above ++
    joined (x + 1) right (x + inset) (mainTop + main.rise) main
      (strokes (x + inset) mainTop main) ++
    stackStrokes x right (mainTop + main.height) below
  | .loop body back =>
    let f := Figure.loop body back
    let last := x + f.exitCol
    let right := last - 1
    let track := y + f.rise
    let backTop := y + body.height
    let backRow := backTop + back.rise
    let backX := x + backCol body back
    joined x last (x + inset) track body (strokes (x + inset) y body) ++
    [.upright (x + 1) track backRow, .upright right track backRow] ++
    joined (x + 1) right backX backRow back (strokes backX backTop back)

/-- The items of a sequence after the first one. The track to an item starts in the last column
of the one before it. -/
def rowStrokes (track x : Nat) : List Figure → List Stroke
  | [] => []
  | f :: rest =>
    .across (x - 1) (x + gap) track ::
      (strokes (x + gap) (track - f.rise) f ++ rowStrokes track (x + gap + f.width) rest)

/-- Paths one below the other, each joined to both rails. -/
def stackStrokes (x right y : Nat) : List Figure → List Stroke
  | [] => []
  | f :: rest =>
    joined (x + 1) right (x + inset) (y + f.rise) f (strokes (x + inset) y f) ++
      stackStrokes x right (y + f.height) rest

end

end Figure

namespace Plan

def startMarker : Char := '╟'
def endMarker : Char := '╢'

def strokes (plan : Plan) : List Stroke :=
  let track := plan.trackRow
  [.put 0 track startMarker, .across 1 plan.root.x track] ++
    plan.figure.strokes plan.root.x plan.root.y ++
    [.across (plan.root.endCol - 1) (plan.width - 2) track,
      .put (plan.width - 1) track endMarker]

def drawn (plan : Plan) : Except Grid.Fault Grid := do
  let blank ← Grid.blank plan.width plan.height ' '
  match blank.drawAll plan.strokes with
  | (grid, none) => .ok grid
  | (_, some fault) => .error fault

def text (plan : Plan) : Except Grid.Fault String := do return (← plan.drawn).trimmedText

end Plan

/-- The drawing of a diagram as text. -/
def Diagram.text (style : Style) (d : Diagram) : Except Grid.Fault String :=
  (Plan.ofDiagram style d).text

end Trackplan
