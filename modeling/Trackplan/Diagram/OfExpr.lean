import Trackplan.Diagram.Basic

/-! The diagram of an expression. Nested sequences read as one run of track, so they are spliced
into their parent; all other structure is kept. -/
namespace Trackplan.Diagram

namespace Node

/-- The pieces of track that a node adds to a run. -/
def pieces : Node → List Node
  | .sequence items => items
  | .skip => []
  | n => [n]

/-- A run of pieces: nothing is a plain track, and one piece stands for itself. -/
def run : List Node → Node
  | [] => .skip
  | [n] => n
  | ns => .sequence ns

mutual

def ofExpr : Expr → Node
  | .terminal t => .terminal t
  | .reference name => .reference name
  | .note text => .comment text
  | .sequence items => run (piecesOf items)
  | .choice options default => .choice (ofExprs options) default
  | .optional body => .optional (ofExpr body)
  | .repetition least body none => .repetition least (ofExpr body) none
  | .repetition least body (some separator) =>
    .repetition least (ofExpr body) (some (ofExpr separator))

def piecesOf : List Expr → List Node
  | [] => []
  | e :: rest => (ofExpr e).pieces ++ piecesOf rest

def ofExprs : List Expr → List Node
  | [] => []
  | e :: rest => ofExpr e :: ofExprs rest

end

theorem piecesOf_eq (es : List Expr) : piecesOf es = es.flatMap (pieces ∘ ofExpr) := by
  induction es with
  | nil => rfl
  | cons e rest ih => simp [piecesOf, ih]

theorem ofExprs_eq (es : List Expr) : ofExprs es = es.map ofExpr := by
  induction es with
  | nil => rfl
  | cons e rest ih => simp [ofExprs, ih]

theorem ofExpr_sequence (items : List Expr) :
    ofExpr (.sequence items) = run (items.flatMap (pieces ∘ ofExpr)) := by
  simp [ofExpr, piecesOf_eq]

theorem ofExpr_choice (options : List Expr) (default : Nat) :
    ofExpr (.choice options default) = .choice (options.map ofExpr) default := by
  simp [ofExpr, ofExprs_eq]

theorem ofExpr_repetition (least : Least) (body : Expr) (separator : Option Expr) :
    ofExpr (.repetition least body separator) =
      .repetition least (ofExpr body) (separator.map ofExpr) := by
  cases separator <;> simp [ofExpr]

end Node

/-- The diagram of an expression that no rule names. -/
def ofExpr (e : Expr) : Diagram := ⟨none, .ofExpr e⟩

end Trackplan.Diagram
