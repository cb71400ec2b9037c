import Trackplan.Expr.Basic

/-! The text of an expression in the notation of parsing expression grammars. Parentheses are
written only where the place demands them. -/
namespace Trackplan.Expr

/-- Where an expression stands: alone, as an option of a choice, as an item of a sequence, or
under a repetition mark. -/
inductive Place
  | alone | option | item | marked
  deriving DecidableEq, Repr

/-- A sequence of several items needs parentheses here. -/
def Place.bindsSequence : Place → Bool
  | .item | .marked => true
  | .alone | .option => false

/-- A choice among several options needs parentheses here. -/
def Place.bindsChoice : Place → Bool
  | .alone => false
  | .option | .item | .marked => true

def parenthesized (needed : Bool) (text : String) : String :=
  if needed then "(" ++ text ++ ")" else text

mutual

def pegAt (place : Place) : Expr → String
  | .terminal t => t.written
  | .reference name => name
  | .note text => "/* " ++ text ++ " */"
  | .sequence [] => "()"
  | .sequence [e] => pegAt place e
  | .sequence (e :: f :: rest) =>
    parenthesized place.bindsSequence
      (" ".intercalate (pegAt .item e :: pegAt .item f :: pegEach .item rest))
  | .choice [e] _ => pegAt place e
  | .choice options _ =>
    parenthesized place.bindsChoice (" | ".intercalate (pegEach .option options))
  | .optional body => "[" ++ pegAt .alone body ++ "]"
  | .repetition .zero body none => pegAt .marked body ++ "*"
  | .repetition .one body none => pegAt .marked body ++ "+"
  | .repetition .zero body (some separator) =>
    "[" ++ pegAt .marked separator ++ "." ++ pegAt .marked body ++ "+]"
  | .repetition .one body (some separator) =>
    pegAt .marked separator ++ "." ++ pegAt .marked body ++ "+"

def pegEach (place : Place) : List Expr → List String
  | [] => []
  | e :: rest => pegAt place e :: pegEach place rest

end

def peg (e : Expr) : String := e.pegAt .alone

theorem pegEach_eq (place : Place) (es : List Expr) :
    pegEach place es = es.map (pegAt place) := by
  induction es with
  | nil => rfl
  | cons e rest ih => simp [pegEach, ih]

end Trackplan.Expr
