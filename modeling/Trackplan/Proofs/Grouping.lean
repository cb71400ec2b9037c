import Trackplan.Proofs.Soundness

/-! What a diagram forgets of its expression: how sequences are grouped, and nothing else. A diagram
can be written out as an expression again, and every expression can be regrouped into the one that
its own diagram is written as, so expressions of one diagram are regroupings of each other. -/
namespace Trackplan

/-- The least congruence that splices a sequence nested in a sequence, drops an empty one and puts
the only item of a sequence in its place. -/
inductive Expr.EqUpToGrouping : Expr → Expr → Prop
  | refl (e : Expr) : EqUpToGrouping e e
  | symm {a b : Expr} : EqUpToGrouping a b → EqUpToGrouping b a
  | trans {a b c : Expr} : EqUpToGrouping a b → EqUpToGrouping b c → EqUpToGrouping a c
  | splice (before inner after : List Expr) :
      EqUpToGrouping (.sequence (before ++ .sequence inner :: after))
        (.sequence (before ++ inner ++ after))
  | drop (before after : List Expr) :
      EqUpToGrouping (.sequence (before ++ .sequence [] :: after)) (.sequence (before ++ after))
  | single (e : Expr) : EqUpToGrouping (.sequence [e]) e
  | item (before after : List Expr) {a b : Expr} : EqUpToGrouping a b →
      EqUpToGrouping (.sequence (before ++ a :: after)) (.sequence (before ++ b :: after))
  | option (before after : List Expr) (default : Nat) {a b : Expr} : EqUpToGrouping a b →
      EqUpToGrouping (.choice (before ++ a :: after) default)
        (.choice (before ++ b :: after) default)
  | optional {a b : Expr} : EqUpToGrouping a b → EqUpToGrouping (.optional a) (.optional b)
  | body (least : Least) (separator : Option Expr) {a b : Expr} : EqUpToGrouping a b →
      EqUpToGrouping (.repetition least a separator) (.repetition least b separator)
  | separator (least : Least) (body : Expr) {a b : Expr} : EqUpToGrouping a b →
      EqUpToGrouping (.repetition least body (some a)) (.repetition least body (some b))

namespace Expr.EqUpToGrouping

/-- Parts that may be regrouped one by one may be regrouped together. The parts already done stand
before those to come. -/
theorem each (whole : List Expr → Expr) {f : Expr → Expr} {es : List Expr}
    (one : ∀ before after {a b}, EqUpToGrouping a b →
      EqUpToGrouping (whole (before ++ a :: after)) (whole (before ++ b :: after)))
    (same : ∀ e ∈ es, EqUpToGrouping e (f e)) (done : List Expr) :
    EqUpToGrouping (whole (done ++ es)) (whole (done ++ es.map f)) := by
  induction es generalizing done with
  | nil => exact .refl _
  | cons e rest ih =>
    have first := one done rest (same e List.mem_cons_self)
    have others := ih (fun e mem => same e (List.mem_cons_of_mem _ mem)) (done ++ [f e])
    simp only [List.append_assoc, List.singleton_append] at others
    exact first.trans others

end Expr.EqUpToGrouping

namespace Diagram

namespace Node

mutual

/-- The node written out as an expression. A missing rule can only be referred to. -/
def expr : Node → Expr
  | .terminal t => .terminal t
  | .reference name => .reference name
  | .skip => .sequence []
  | .sequence items => .sequence (exprs items)
  | .choice paths default => .choice (exprs paths) default
  | .optional body => .optional (expr body)
  | .repetition least body none => .repetition least (expr body) none
  | .repetition least body (some separator) =>
    .repetition least (expr body) (some (expr separator))
  | .comment text => .note text
  | .missing name => .reference name

def exprs : List Node → List Expr
  | [] => []
  | n :: rest => expr n :: exprs rest

end

theorem exprs_eq (ns : List Node) : exprs ns = ns.map expr := by
  induction ns with
  | nil => rfl
  | cons n rest ih => simp [exprs, ih]

theorem expr_sequence (items : List Node) : expr (.sequence items) = .sequence (items.map expr) := by
  rw [expr, exprs_eq]

theorem expr_choice (paths : List Node) (default : Nat) :
    expr (.choice paths default) = .choice (paths.map expr) default := by
  rw [expr, exprs_eq]

theorem expr_repetition (least : Least) (body : Node) (separator : Option Node) :
    expr (.repetition least body separator) =
      .repetition least (expr body) (separator.map expr) := by
  cases separator <;> simp [expr]

open Trackplan.Expr (EqUpToGrouping)

/-- An item may be replaced by the pieces that it adds to the run. -/
theorem grouping_pieces (n : Node) (before after : List Expr) :
    EqUpToGrouping (.sequence (before ++ n.expr :: after))
      (.sequence (before ++ n.pieces.map expr ++ after)) := by
  cases n with
  | sequence items =>
    rw [expr_sequence]
    exact .splice before (items.map expr) after
  | skip =>
    change EqUpToGrouping (.sequence (before ++ .sequence [] :: after))
      (.sequence (before ++ [] ++ after))
    rw [List.append_nil]
    exact .drop before after
  | terminal | reference | choice | optional | repetition | comment | missing =>
    -- The node is its own only piece.
    rw [List.append_assoc]
    exact .refl _

theorem grouping_flatMap (ns : List Node) (done : List Expr) :
    EqUpToGrouping (.sequence (done ++ ns.map expr))
      (.sequence (done ++ (ns.flatMap pieces).map expr)) := by
  induction ns generalizing done with
  | nil => exact .refl _
  | cons n rest ih =>
    have first := grouping_pieces n done (rest.map expr)
    have others := ih (done ++ n.pieces.map expr)
    rw [List.append_assoc _ _ (List.map _ (List.flatMap _ _)), ← List.map_append] at others
    exact first.trans others

theorem grouping_run (ns : List Node) : EqUpToGrouping (.sequence (ns.map expr)) (run ns).expr :=
  match ns with
  | [] => .refl _
  | [n] => .single n.expr
  | first :: second :: rest => by
    rw [← expr_sequence]
    exact .refl _

/-- Every expression can be regrouped into the one that its diagram is written as. -/
theorem grouping_expr (e : Expr) : EqUpToGrouping e (ofExpr e).expr := by
  induction e using Expr.induct with
  | terminal | reference | note => exact .refl _
  | sequence items ih =>
    rw [ofExpr_sequence]
    have written : EqUpToGrouping (.sequence items) (.sequence ((items.map ofExpr).map expr)) := by
      rw [List.map_map]
      exact .each .sequence .item ih []
    have spliced := grouping_flatMap (items.map ofExpr) []
    rw [List.flatMap_map] at spliced
    exact (written.trans spliced).trans (grouping_run _)
  | choice options default ih =>
    rw [ofExpr_choice, expr_choice, List.map_map]
    exact .each (.choice · default) (fun before after => .option before after default) ih []
  | optional body ih => exact .optional ih
  | repetition least body separator ih sep =>
    rw [ofExpr_repetition, expr_repetition]
    refine .trans (.body least separator ih) ?_
    cases separator with
    | none => exact .refl _
    | some s => exact .separator least _ (sep s rfl)

/-- Regrouping does not show in the diagram. -/
theorem ofExpr_eq_of_grouping {a b : Expr} (same : EqUpToGrouping a b) : ofExpr a = ofExpr b := by
  induction same with
  | refl => rfl
  | symm _ ih => exact ih.symm
  | trans _ _ ih next => exact ih.trans next
  | splice before inner after =>
    rw [ofExpr_sequence, ofExpr_sequence, List.flatMap_append, List.flatMap_cons,
      Function.comp_apply, pieces_sequence, List.flatMap_append, List.flatMap_append,
      List.append_assoc]
  | drop before after =>
    rw [ofExpr_sequence, ofExpr_sequence, List.flatMap_append, List.flatMap_cons,
      Function.comp_apply, pieces_sequence, List.flatMap_nil, List.nil_append,
      List.flatMap_append]
  | single e => rw [ofExpr_sequence, List.flatMap_singleton, Function.comp_apply, run_pieces]
  | item before after _ ih =>
    simp only [ofExpr_sequence, List.flatMap_append, List.flatMap_cons, Function.comp_apply, ih]
  | option before after default _ ih =>
    simp only [ofExpr_choice, List.map_append, List.map_cons, ih]
  | optional _ ih => rw [ofExpr, ofExpr, ih]
  | body least separator _ ih => rw [ofExpr_repetition, ofExpr_repetition, ih]
  | separator least body _ ih =>
    rw [ofExpr_repetition, ofExpr_repetition, Option.map_some, Option.map_some, ih]

/-- A run has two pieces or more, and none of them is a bare track or a run of its own. -/
def Flat : Node → Prop
  | .sequence items => 2 ≤ items.length ∧ ∀ n ∈ items, n.IsPiece
  | _ => True

theorem flat_run {ns : List Node} (single : ∀ n ∈ ns, n.IsPiece)
    (flat : ∀ n ∈ ns, n.Everywhere Flat) : (run ns).Everywhere Flat :=
  match ns with
  | [] => by simp [run, Everywhere, nodes, Flat]
  | [n] => flat n (List.mem_singleton_self n)
  | first :: second :: rest => by
    have long : 2 ≤ (first :: second :: rest).length := by simp
    exact everywhere_sequence.2 ⟨⟨long, single⟩, flat⟩

theorem flat_ofExpr (e : Expr) : (ofExpr e).Everywhere Flat := by
  induction e using Expr.induct with
  | terminal | reference | note => simp [ofExpr, Everywhere, nodes, Flat]
  | sequence items ih =>
    rw [ofExpr_sequence]
    refine flat_run (isPiece_of_mem_items items) (List.forall_mem_flatMap.2 fun e mem => ?_)
    exact (ih e mem).pieces
  | choice options default ih =>
    rw [ofExpr_choice, everywhere_choice, List.forall_mem_map]
    exact ⟨trivial, ih⟩
  | optional body ih => exact everywhere_optional.2 ⟨trivial, ih⟩
  | repetition least body separator ih sep =>
    rw [ofExpr_repetition, everywhere_repetition]
    exact ⟨trivial, ih, by simpa using sep⟩

end Node

/-- Two expressions have the same diagram exactly if they differ in the grouping of sequences only,
and in a diagram nothing is left to regroup. -/
theorem only_grouping_forgotten :
    (∀ a b : Expr, Diagram.ofExpr a = Diagram.ofExpr b ↔ a.EqUpToGrouping b) ∧
    ∀ e : Expr, (Diagram.ofExpr e).root.Everywhere Node.Flat := by
  refine ⟨fun a b => ⟨fun same => ?_, fun same => ?_⟩, Node.flat_ofExpr⟩
  · have roots : Node.ofExpr a = Node.ofExpr b := congrArg Diagram.root same
    have back := (Node.grouping_expr b).symm
    rw [← roots] at back
    exact (Node.grouping_expr a).trans back
  · exact congrArg (Diagram.mk none) (Node.ofExpr_eq_of_grouping same)

end Diagram

end Trackplan
