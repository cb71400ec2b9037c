import Trackplan.Diagram.Basic
import Trackplan.Figure.Basic
import Trackplan.Style
import Trackplan.Text.Escape

/-! The figure of a diagram. What may be passed by gets a plain track above it, and what may be
repeated a way back beneath it. -/
namespace Trackplan.Figure

def ofItems : List Figure → Figure
  | [] => .track 1
  | first :: rest => .sequence first rest

/-- Moves the track down by the given number of paths, or as far as there are any. -/
def branchAt (above : List Figure) (main : Figure) : List Figure → Nat → Figure
  | next :: below, n + 1 => branchAt (above ++ [main]) next below n
  | below, _ => .branch above main below

def ofPaths (default : Nat) : List Figure → Figure
  | [] => .track 1
  | first :: rest => branchAt [] first rest default

def bypassed (f : Figure) : Figure := .branch [.track 1] f []

/-- The separator stands on the way back; without one the way back is plain. -/
def looped (body : Figure) (separator : Option Figure) : Figure :=
  .loop body (separator.getD (.track body.width))

def repeated (least : Least) (body : Figure) (separator : Option Figure) : Figure :=
  match least with
  | .zero => bypassed (looped body separator)
  | .one => looped body separator

/-- The text in place of a definition. The name may hold anything, so it is written escaped. -/
def missingText (name : String) : String := "no definition for `" ++ Text.escape name ++ "`"

mutual

def ofNode (style : Style) : Diagram.Node → Figure
  | .terminal t => .box (.terminal t.kind) (style.terminalLabel t)
  | .reference name => .box .reference (style.label name)
  | .skip => .track 1
  | .sequence items => ofItems (ofNodes style items)
  | .choice paths default => ofPaths default (ofNodes style paths)
  | .optional body => bypassed (ofNode style body)
  | .repetition least body none => repeated least (ofNode style body) none
  | .repetition least body (some separator) =>
    repeated least (ofNode style body) (some (ofNode style separator))
  | .comment text => if style.comments then .caption (style.label text) else .track 1
  | .missing name => .caption (style.label (missingText name))

def ofNodes (style : Style) : List Diagram.Node → List Figure
  | [] => []
  | n :: rest => ofNode style n :: ofNodes style rest

end

theorem ofNodes_eq (style : Style) (ns : List Diagram.Node) :
    ofNodes style ns = ns.map (ofNode style) := by
  induction ns with
  | nil => rfl
  | cons n rest ih => simp [ofNodes, ih]

theorem ofNode_repetition (style : Style) (least : Least) (body : Diagram.Node)
    (separator : Option Diagram.Node) :
    ofNode style (.repetition least body separator) =
      repeated least (ofNode style body) (separator.map (ofNode style)) := by
  cases separator <;> simp [ofNode]

/-- The paths stay in order, and the default is met or else the last path. -/
theorem exists_branchAt (above : List Figure) (main : Figure) (below : List Figure)
    (default : Nat) :
    ∃ above' main' below', branchAt above main below default = .branch above' main' below' ∧
      above' ++ main' :: below' = above ++ main :: below ∧
      above'.length = above.length + min default below.length := by
  induction below generalizing above main default with
  | nil => exact ⟨above, main, [], by simp [branchAt]⟩
  | cons next below ih =>
    cases default with
    | zero => exact ⟨above, main, next :: below, by simp [branchAt]⟩
    | succ n =>
      obtain ⟨above', main', below', eq, order, count⟩ := ih (above ++ [main]) next n
      refine ⟨above', main', below', by simpa [branchAt] using eq, by simp [order], ?_⟩
      simp only [List.length_append, List.length_cons, List.length_nil] at count ⊢
      omega

end Trackplan.Figure
