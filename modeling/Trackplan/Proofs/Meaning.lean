import Mathlib.Algebra.BigOperators.Group.List.Basic
import Trackplan.Diagram.OfExpr
import Trackplan.Proofs.Language

/-! What an expression spells, its diagram spells too, and the plan of the diagram with each symbol
as the box that stands for it. -/
namespace Trackplan

namespace Diagram

namespace Node

theorem prod_pieces (n : Node) : (n.pieces.map language).prod = n.language := by
  cases n with
  | sequence items => rw [pieces, language_sequence]
  | skip => rfl
  | terminal | reference | choice | optional | repetition | comment | missing =>
    exact List.prod_singleton

theorem language_run (ns : List Node) : (run ns).language = (ns.map language).prod :=
  match ns with
  | [] => rfl
  | [_] => List.prod_singleton.symm
  | first :: second :: rest => language_sequence (first :: second :: rest)

/-- Splicing is concatenation without brackets. -/
theorem language_spliced {α : Type} (f : α → Node) (xs : List α) :
    (run (xs.flatMap (pieces ∘ f))).language = (xs.map (language ∘ f)).prod := by
  rw [language_run]
  induction xs with
  | nil => rfl
  | cons x rest ih =>
    rw [List.flatMap_cons, List.map_append, List.prod_append, ih, List.map_cons, List.prod_cons,
      Function.comp_apply, Function.comp_apply, prod_pieces]

end Node

/-- An expression and its diagram spell the same words. -/
theorem language_ofExpr (e : Expr) : (Diagram.ofExpr e).root.language = e.language := by
  change (Node.ofExpr e).language = e.language
  induction e using Expr.induct with
  | terminal | reference | note => rfl
  | sequence items ih =>
    rw [Node.ofExpr_sequence, Node.language_spliced, Expr.language_sequence]
    exact congrArg List.prod (List.map_congr_left ih)
  | choice options default ih =>
    rw [Node.ofExpr_choice, Node.language_choice, Expr.language_choice, List.map_map]
    exact congrArg List.sum (List.map_congr_left ih)
  | optional body ih => rw [Node.ofExpr, Node.language, Expr.language, ih]
  | repetition least body separator ih sep =>
    rw [Node.ofExpr_repetition, Node.language_repetition, Expr.language_repetition, ih]
    cases separator with
    | none => rfl
    | some s => rw [Option.map_some, Option.elim_some, Option.elim_some, sep s rfl]

end Diagram

namespace Style

/-- The box that stands for a symbol. -/
def sign (style : Style) : Symbol → Figure.Shape × String
  | .terminal t => (.terminal t.kind, style.terminalLabel t)
  | .reference name => (.reference, style.label name)

end Style

namespace Figure

theorem language_ofItems (fs : List Figure) : (ofItems fs).language = (fs.map language).prod := by
  cases fs with
  | nil => rfl
  | cons first rest => exact language_sequence first rest

theorem language_ofPaths {fs : List Figure} (some : fs ≠ []) (default : Nat) :
    (ofPaths default fs).language = (fs.map language).sum := by
  cases fs with
  | nil => exact absurd rfl some
  | cons first rest =>
    obtain ⟨above, main, below, eq, order, -⟩ := exists_branchAt [] first rest default
    rw [ofPaths, eq, language_branch, order, List.nil_append]

theorem language_bypassed (f : Figure) : (bypassed f).language = 1 + f.language := by
  rw [bypassed, language_branch]
  simp [language]

/-- Without a separator the way back is plain track, which spells nothing. -/
theorem language_looped (body : Figure) (separator : Option Figure) :
    (looped body separator).language = separated body.language (separator.elim 1 language) := by
  rw [looped, language, separated_eq]
  cases separator <;> rfl

theorem language_repeated (least : Least) (body : Figure) (separator : Option Figure) :
    (repeated least body separator).language =
      rounds least body.language (separator.elim 1 language) := by
  cases least with
  | zero => rw [repeated, language_bypassed, language_looped, rounds]
  | one => rw [repeated, language_looped, rounds]

end Figure

namespace Diagram.Node

/-- The nodes right below one, a body before its separator. -/
def parts : Node → List Node
  | .sequence items => items
  | .choice paths _ => paths
  | .optional body => [body]
  | .repetition _ body separator => body :: separator.toList
  | _ => []

theorem nodes_eq (n : Node) : n.nodes = n :: n.parts.flatMap nodes := by
  cases n with
  | sequence items => exact nodes_sequence items
  | choice paths default => exact nodes_choice paths default
  | optional body => rw [nodes, parts, List.flatMap_singleton]
  | repetition least body separator => rw [nodes_repetition, parts, List.flatMap_cons]
  | terminal | reference | skip | comment | missing => rfl

/-- Every choice has a path. -/
def Passable (n : Node) : Prop := ∀ paths default, .choice paths default ∈ n.nodes → paths ≠ []

theorem Passable.ne_nil {paths : List Node} {default : Nat}
    (passable : (Node.choice paths default).Passable) : paths ≠ [] :=
  passable paths default (by rw [nodes_eq]; exact List.mem_cons_self)

theorem Passable.part {m n : Node} (passable : n.Passable) (mem : m ∈ n.parts) : m.Passable := by
  intro paths default on
  refine passable paths default ?_
  rw [nodes_eq]
  exact List.mem_cons_of_mem _ (List.mem_flatMap.mpr ⟨m, mem, on⟩)

end Diagram.Node

/-- A plan spells what its diagram does, box by box. -/
theorem Plan.language_ofDiagram (style : Style) (d : Diagram) (passable : d.root.Passable) :
    (Plan.ofDiagram style d).figure.language = Language.map style.sign d.root.language := by
  change (Figure.ofNode style d.root).language = _
  generalize d.root = n at passable
  induction n using Diagram.Node.induct with
  | terminal t => exact (map_singleton style.sign (.terminal t)).symm
  | reference name => exact (map_singleton style.sign (.reference name)).symm
  | skip => exact (map_one _).symm
  | comment text =>
    rw [Figure.ofNode]
    split <;> exact (map_one _).symm
  | missing name => exact (map_one _).symm
  | sequence items ih =>
    rw [Figure.ofNode, Figure.ofNodes_eq, Figure.language_ofItems, List.map_map,
      Diagram.Node.language_sequence, map_list_prod, List.map_map]
    exact congrArg List.prod (List.map_congr_left fun n mem => ih n mem (passable.part mem))
  | choice paths default ih =>
    -- A choice without paths spells no word, and the plain track drawn for it the empty one.
    have some : paths.map (Figure.ofNode style) ≠ [] := by simpa using passable.ne_nil
    rw [Figure.ofNode, Figure.ofNodes_eq, Figure.language_ofPaths some, List.map_map,
      Diagram.Node.language_choice, map_list_sum, List.map_map]
    exact congrArg List.sum (List.map_congr_left fun n mem => ih n mem (passable.part mem))
  | optional body ih =>
    rw [Figure.ofNode, Figure.language_bypassed, ih (passable.part List.mem_cons_self),
      Diagram.Node.language, map_add, map_one]
  | repetition least body separator ih sep =>
    rw [Figure.ofNode_repetition, Figure.language_repeated, ih (passable.part List.mem_cons_self),
      Diagram.Node.language_repetition, map_rounds]
    cases separator with
    | none => rw [Option.map_none, Option.elim_none, Option.elim_none, map_one]
    | some s =>
      have below : s ∈ (Diagram.Node.repetition least body (some s)).parts :=
        List.mem_cons_of_mem _ List.mem_cons_self
      rw [Option.map_some, Option.elim_some, Option.elim_some, sep s rfl (passable.part below)]

/-- A number or an expression. -/
def Diagram.Node.argument : Diagram.Node :=
  .choice [.terminal (.ofText "NUMBER"), .reference "expression"] 1

def Diagram.arguments : Diagram where
  rule := Name.ofText? "arguments"
  root := .repetition .zero .argument (some (.terminal (.ofText ",")))

theorem Plan.language_ofDiagram_arguments :
    Diagram.arguments.root.Passable ∧
      [(.terminal .token, "NUMBER"), (.terminal .literal, "','"), (.reference, "expre…")] ∈
        (Plan.ofDiagram { limit := some 6 } .arguments).figure.language := by
  have passable : Diagram.arguments.root.Passable := by
    intro paths default mem
    simp [Diagram.arguments, Diagram.Node.argument, Diagram.Node.nodes,
      Diagram.Node.nodesAll] at mem
    simp [mem.1]
  have number : [.terminal (.ofText "NUMBER")] ∈ Diagram.Node.argument.language := .inl rfl
  have expression : [.reference "expression"] ∈ Diagram.Node.argument.language :=
    .inr (.inl rfl)
  have comma : [.terminal (.ofText ",")] ∈ (Diagram.Node.terminal (.ofText ",")).language := rfl
  have word : [.terminal (.ofText "NUMBER"), .terminal (.ofText ","), .reference "expression"] ∈
      Diagram.arguments.root.language := .inr (.more number comma (.one expression))
  rw [Plan.language_ofDiagram { limit := some 6 } .arguments passable]
  exact ⟨passable, _, word, rfl⟩

end Trackplan
