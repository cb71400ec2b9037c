import Mathlib.Data.List.Basic
import Trackplan.Grammar.Diagram
import Trackplan.Plan

/-! The labels of an expression, its diagram and its figure: what stands at the ends of the three
trees, met in the same order. No label is lost, doubled or moved on the way. -/
namespace Trackplan

/-- What stands on the track and has no parts. Only diagrams have missing rules. -/
inductive Leaf
  | terminal (t : Terminal)
  | reference (name : String)
  | note (text : String)
  | missing (name : String)
  deriving DecidableEq, Repr

namespace Leaf

def terminalText? : Leaf → Option String
  | .terminal t => some t.text
  | _ => none

def reference? : Leaf → Option String
  | .reference name => some name
  | _ => none

def missing? : Leaf → Option String
  | .missing name => some name
  | _ => none

end Leaf

namespace Expr

def leaf? : Expr → Option Leaf
  | .terminal t => some (.terminal t)
  | .reference name => some (.reference name)
  | .note text => some (.note text)
  | _ => none

/-- The terminals, references and notes in the order in which they are met. -/
def leaves (e : Expr) : List Leaf := e.nodes.filterMap leaf?

theorem leaves_sequence (items : List Expr) :
    leaves (.sequence items) = items.flatMap leaves := by
  rw [leaves, nodes_sequence, List.filterMap_cons, List.filterMap_flatMap]
  rfl

theorem leaves_choice (options : List Expr) (default : Nat) :
    leaves (.choice options default) = options.flatMap leaves := by
  rw [leaves, nodes_choice, List.filterMap_cons, List.filterMap_flatMap]
  rfl

theorem leaves_optional (body : Expr) : leaves (.optional body) = body.leaves := rfl

theorem leaves_repetition (least : Least) (body : Expr) (separator : Option Expr) :
    leaves (.repetition least body separator) =
      body.leaves ++ separator.toList.flatMap leaves := by
  rw [leaves, nodes_repetition, List.filterMap_cons, List.filterMap_append, List.filterMap_flatMap]
  rfl

theorem terminals_eq (e : Expr) :
    e.terminals.map Terminal.text = e.leaves.filterMap Leaf.terminalText? := by
  rw [terminals, leaves, List.map_filterMap, List.filterMap_filterMap]
  exact List.filterMap_congr fun n _ => by cases n <;> rfl

theorem references_eq (e : Expr) : e.references = e.leaves.filterMap Leaf.reference? := by
  rw [references, leaves, List.filterMap_filterMap]
  exact List.filterMap_congr fun n _ => by cases n <;> rfl

theorem missing?_leaves (e : Expr) : e.leaves.filterMap Leaf.missing? = [] := by
  rw [leaves, List.filterMap_filterMap, List.filterMap_eq_nil_iff]
  intro n _
  cases n <;> rfl

end Expr

namespace Diagram

namespace Node

def leaf? : Node → Option Leaf
  | .terminal t => some (.terminal t)
  | .reference name => some (.reference name)
  | .comment text => some (.note text)
  | .missing name => some (.missing name)
  | _ => none

def leaves (n : Node) : List Leaf := n.nodes.filterMap leaf?

theorem leaves_sequence (items : List Node) :
    leaves (.sequence items) = items.flatMap leaves := by
  rw [leaves, nodes_sequence, List.filterMap_cons, List.filterMap_flatMap]
  rfl

theorem leaves_choice (paths : List Node) (default : Nat) :
    leaves (.choice paths default) = paths.flatMap leaves := by
  rw [leaves, nodes_choice, List.filterMap_cons, List.filterMap_flatMap]
  rfl

theorem leaves_optional (body : Node) : leaves (.optional body) = body.leaves := rfl

theorem leaves_repetition (least : Least) (body : Node) (separator : Option Node) :
    leaves (.repetition least body separator) =
      body.leaves ++ separator.toList.flatMap leaves := by
  rw [leaves, nodes_repetition, List.filterMap_cons, List.filterMap_append, List.filterMap_flatMap]
  rfl

theorem leaves_pieces (n : Node) : n.pieces.flatMap leaves = n.leaves := by
  cases n with
  | sequence items => exact (leaves_sequence items).symm
  | skip => rfl
  | terminal | reference | choice | optional | repetition | comment | missing =>
    exact List.flatMap_singleton leaves _

theorem leaves_run (ns : List Node) : (run ns).leaves = ns.flatMap leaves :=
  match ns with
  | [] => rfl
  | [n] => (List.flatMap_singleton leaves n).symm
  | first :: second :: rest => leaves_sequence (first :: second :: rest)

/-- Splicing sequences drops brackets only. -/
theorem leaves_ofExpr (e : Expr) : (Node.ofExpr e).leaves = e.leaves := by
  induction e using Expr.induct with
  | terminal | reference | note => rfl
  | sequence items ih =>
    rw [ofExpr_sequence, leaves_run, Expr.leaves_sequence, List.flatMap_assoc]
    refine List.flatMap_congr fun e mem => ?_
    rw [Function.comp_apply, leaves_pieces, ih e mem]
  | choice options default ih =>
    rw [ofExpr_choice, leaves_choice, Expr.leaves_choice, List.flatMap_map]
    exact List.flatMap_congr ih
  | optional body ih => rw [ofExpr, leaves_optional, Expr.leaves_optional, ih]
  | repetition least body separator ih sep =>
    rw [ofExpr_repetition, leaves_repetition, Expr.leaves_repetition, ih]
    cases separator with
    | none => rfl
    | some s =>
      rw [Option.map_some, Option.toList_some, Option.toList_some, List.flatMap_singleton,
        List.flatMap_singleton, sep s rfl]

end Node

theorem terminalLabels_eq (d : Diagram) :
    d.terminalLabels = d.root.leaves.filterMap Leaf.terminalText? := by
  rw [terminalLabels, Node.leaves, List.filterMap_filterMap]
  exact List.filterMap_congr fun n _ => by cases n <;> rfl

theorem referenceLabels_eq (d : Diagram) :
    d.referenceLabels = d.root.leaves.filterMap Leaf.reference? := by
  rw [referenceLabels, Node.leaves, List.filterMap_filterMap]
  exact List.filterMap_congr fun n _ => by cases n <;> rfl

theorem placeholders_eq (d : Diagram) :
    d.placeholders = d.root.leaves.filterMap Leaf.missing? := by
  rw [placeholders, Node.leaves, List.filterMap_filterMap]
  exact List.filterMap_congr fun n _ => by cases n <;> rfl

end Diagram

namespace Figure

/-- What a figure writes in one place. -/
inductive Label
  | box (shape : Shape) (text : String)
  | caption (text : String)
  deriving DecidableEq, Repr

mutual

/-- The boxes and captions, each figure before what follows it: items in order, paths from top to
bottom, the body of a loop before the way back. -/
def labels : Figure → List Label
  | .box shape label => [.box shape label]
  | .caption text => [.caption text]
  | .track _ => []
  | .sequence first rest => labels first ++ labelsAll rest
  | .branch above main below => labelsAll above ++ (labels main ++ labelsAll below)
  | .loop body back => labels body ++ labels back

def labelsAll : List Figure → List Label
  | [] => []
  | f :: rest => labels f ++ labelsAll rest

end

theorem labelsAll_eq (fs : List Figure) : labelsAll fs = fs.flatMap labels := by
  induction fs with
  | nil => rfl
  | cons f rest ih => rw [labelsAll, ih, List.flatMap_cons]

theorem labels_branch (above : List Figure) (main : Figure) (below : List Figure) :
    labels (.branch above main below) = (above ++ main :: below).flatMap labels := by
  rw [labels, labelsAll_eq, labelsAll_eq, List.flatMap_append, List.flatMap_cons]

theorem labels_ofItems (fs : List Figure) : (ofItems fs).labels = fs.flatMap labels := by
  cases fs with
  | nil => rfl
  | cons first rest => rw [ofItems, labels, labelsAll_eq, List.flatMap_cons]

/-- Which path carries the track does not matter. -/
theorem labels_ofPaths (default : Nat) (fs : List Figure) :
    (ofPaths default fs).labels = fs.flatMap labels := by
  cases fs with
  | nil => rfl
  | cons first rest =>
    obtain ⟨above, main, below, eq, order, -⟩ := exists_branchAt [] first rest default
    rw [ofPaths, eq, labels_branch, order, List.nil_append]

theorem labels_bypassed (f : Figure) : (bypassed f).labels = f.labels := by
  simp [bypassed, labels, labelsAll]

theorem labels_looped (body : Figure) (separator : Option Figure) :
    (looped body separator).labels = body.labels ++ separator.toList.flatMap labels := by
  cases separator <;> simp [looped, labels]

theorem labels_repeated (least : Least) (body : Figure) (separator : Option Figure) :
    (repeated least body separator).labels = body.labels ++ separator.toList.flatMap labels := by
  cases least with
  | zero => rw [repeated, labels_bypassed, labels_looped]
  | one => rw [repeated, labels_looped]

end Figure

namespace Style

/-- Only notes can be hidden. -/
def shows (style : Style) : Leaf → Bool
  | .note _ => style.comments
  | _ => true

def shown (style : Style) : Leaf → Figure.Label
  | .terminal t => .box (.terminal t.kind) (style.terminalLabel t)
  | .reference name => .box .reference (style.label name)
  | .note text => .caption (style.label text)
  | .missing name => .caption (style.label (Figure.missingText name))

def labels (style : Style) (leaves : List Leaf) : List Figure.Label :=
  (leaves.filter style.shows).map style.shown

theorem labels_append (style : Style) (as bs : List Leaf) :
    style.labels (as ++ bs) = style.labels as ++ style.labels bs := by
  rw [labels, List.filter_append, List.map_append]
  rfl

theorem labels_flatMap {α : Type} (style : Style) (f : α → List Leaf) (xs : List α) :
    style.labels (xs.flatMap f) = xs.flatMap fun x => style.labels (f x) := by
  induction xs with
  | nil => rfl
  | cons x rest ih => rw [List.flatMap_cons, labels_append, ih, List.flatMap_cons]

end Style

/-- A figure shows the leaves of its diagram, as far as the style shows them. -/
theorem Figure.labels_ofNode (style : Style) (n : Diagram.Node) :
    (ofNode style n).labels = style.labels n.leaves := by
  induction n using Diagram.Node.induct with
  | terminal | reference | skip | missing => rfl
  | comment text =>
    cases shown : style.comments <;>
      simp [ofNode, shown, labels, Style.labels, Diagram.Node.leaves, Diagram.Node.nodes,
        Diagram.Node.leaf?, Style.shows, Style.shown]
  | sequence items ih =>
    rw [ofNode, ofNodes_eq, labels_ofItems, List.flatMap_map, Diagram.Node.leaves_sequence,
      Style.labels_flatMap]
    exact List.flatMap_congr ih
  | choice paths default ih =>
    rw [ofNode, ofNodes_eq, labels_ofPaths, List.flatMap_map, Diagram.Node.leaves_choice,
      Style.labels_flatMap]
    exact List.flatMap_congr ih
  | optional body ih => rw [ofNode, labels_bypassed, ih, Diagram.Node.leaves_optional]
  | repetition least body separator ih sep =>
    rw [ofNode_repetition, labels_repeated, ih, Diagram.Node.leaves_repetition,
      Style.labels_append, Style.labels_flatMap]
    cases separator with
    | none => rfl
    | some s =>
      rw [Option.map_some, Option.toList_some, Option.toList_some, List.flatMap_singleton,
        List.flatMap_singleton, sep s rfl]

/-- The labels of an expression, as its diagram and its plan have them. -/
structure LabelsKept (style : Style) (e : Expr) : Prop where
  drawn : (Plan.ofDiagram style (.ofExpr e)).figure.labels = style.labels e.leaves
  terminals : (Diagram.ofExpr e).terminalLabels = e.terminals.map Terminal.text
  references : (Diagram.ofExpr e).referenceLabels = e.references
  nothingMissing : (Diagram.ofExpr e).placeholders = []

theorem labelsKept (style : Style) (e : Expr) : LabelsKept style e where
  drawn := (Figure.labels_ofNode style _).trans (congrArg _ (Diagram.Node.leaves_ofExpr e))
  terminals := by
    rw [Diagram.terminalLabels_eq, Expr.terminals_eq]
    exact congrArg _ (Diagram.Node.leaves_ofExpr e)
  references := by
    rw [Diagram.referenceLabels_eq, Expr.references_eq]
    exact congrArg _ (Diagram.Node.leaves_ofExpr e)
  nothingMissing := by
    rw [Diagram.placeholders_eq]
    exact (congrArg _ (Diagram.Node.leaves_ofExpr e)).trans (Expr.missing?_leaves e)

namespace Grammar

/-- Only a name without a rule has something in place of a definition: itself. -/
theorem placeholders_diagram (g : Grammar) (name : String) :
    (g.diagram name).placeholders = if g.has name then [] else [name] := by
  rw [diagram, ← isSome_find?]
  cases g.find? name with
  | none => rfl
  | some rule => exact (labelsKept {} rule.body).nothingMissing

end Grammar

/-- No label is lost, doubled or moved between an expression, its diagram and its plan, and a name
is shown as missing exactly if the grammar has no rule for it. -/
theorem labels_preserved :
    (∀ style e, LabelsKept style e) ∧
    ∀ (g : Grammar) (name : String),
      ((g.diagram name).placeholders ≠ [] ↔ ¬∃ n ∈ g.names, n.text = name) ∧
      ((g.diagram name).placeholders ≠ [] → (g.diagram name).placeholders = [name]) := by
  refine ⟨labelsKept, fun g name => ?_⟩
  rw [g.placeholders_diagram, ← Grammar.has_iff]
  cases g.has name <;> simp

end Trackplan
