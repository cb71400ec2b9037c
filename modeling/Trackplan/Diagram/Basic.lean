import Trackplan.Expr.Basic
import Trackplan.Name

/-! Railroad diagrams apart from any drawing: which tracks there are and what stands on them. -/
namespace Trackplan

inductive Diagram.Node
  | terminal (t : Terminal)
  | reference (name : String)
  | skip
  | sequence (items : List Node)
  | choice (paths : List Node) (default : Nat)
  | optional (body : Node)
  | repetition (least : Least) (body : Node) (separator : Option Node)
  | comment (text : String)
  | missing (name : String)

structure Diagram where
  rule : Option Name
  root : Diagram.Node

namespace Diagram

/-- Stands for a rule without a definition; the name is any text at all. -/
def missing (name : String) : Diagram := ⟨Name.ofText? name, .missing name⟩

namespace Node

@[elab_as_elim]
theorem induct {P : Node → Prop}
    (terminal : ∀ t, P (.terminal t)) (reference : ∀ name, P (.reference name))
    (skip : P .skip)
    (sequence : ∀ items, (∀ n ∈ items, P n) → P (.sequence items))
    (choice : ∀ paths default, (∀ n ∈ paths, P n) → P (.choice paths default))
    (optional : ∀ body, P body → P (.optional body))
    (repetition : ∀ least body separator, P body → (∀ s ∈ separator, P s) →
      P (.repetition least body separator))
    (comment : ∀ text, P (.comment text)) (missing : ∀ name, P (.missing name)) (n : Node) :
    P n :=
  @Node.rec P (fun ns => ∀ n ∈ ns, P n) (fun s => ∀ n ∈ s, P n)
    terminal reference skip sequence choice optional repetition comment missing
    (by simp) (fun _ _ first rest => by simpa using ⟨first, rest⟩)
    (by simp) (fun _ ih => by simpa using ih) n

mutual

/-- The node and everything on it, parents first, a body before its separator. -/
def nodes : Node → List Node
  | .terminal t => [.terminal t]
  | .reference name => [.reference name]
  | .skip => [.skip]
  | .sequence items => .sequence items :: nodesAll items
  | .choice paths default => .choice paths default :: nodesAll paths
  | .optional body => .optional body :: nodes body
  | .repetition least body none => .repetition least body none :: nodes body
  | .repetition least body (some separator) =>
    .repetition least body (some separator) :: (nodes body ++ nodes separator)
  | .comment text => [.comment text]
  | .missing name => [.missing name]

def nodesAll : List Node → List Node
  | [] => []
  | n :: rest => nodes n ++ nodesAll rest

end

def terminalText? : Node → Option String
  | .terminal t => some t.text
  | _ => none

def reference? : Node → Option String
  | .reference name => some name
  | _ => none

def missing? : Node → Option String
  | .missing name => some name
  | _ => none

theorem nodesAll_eq (ns : List Node) : nodesAll ns = ns.flatMap nodes := by
  induction ns with
  | nil => rfl
  | cons n rest ih => simp [nodesAll, ih]

theorem nodes_sequence (items : List Node) :
    nodes (.sequence items) = .sequence items :: items.flatMap nodes := by
  simp [nodes, nodesAll_eq]

theorem nodes_choice (paths : List Node) (default : Nat) :
    nodes (.choice paths default) = .choice paths default :: paths.flatMap nodes := by
  simp [nodes, nodesAll_eq]

theorem nodes_repetition (least : Least) (body : Node) (separator : Option Node) :
    nodes (.repetition least body separator) =
      .repetition least body separator :: (nodes body ++ separator.toList.flatMap nodes) := by
  cases separator <;> simp [nodes]

end Node

def terminalLabels (d : Diagram) : List String := d.root.nodes.filterMap Node.terminalText?

def referenceLabels (d : Diagram) : List String := d.root.nodes.filterMap Node.reference?

/-- Names that stand in the diagram for want of a definition. -/
def placeholders (d : Diagram) : List String := d.root.nodes.filterMap Node.missing?

/-- The number of paths of a diagram that is one choice. -/
def branchCount? (d : Diagram) : Option Nat :=
  match d.root with
  | .choice paths _ => some paths.length
  | _ => none

end Diagram

end Trackplan
