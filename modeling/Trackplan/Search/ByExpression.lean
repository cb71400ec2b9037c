/-! Choosing names by a regular expression. What reads expressions and finds them in texts comes
from outside. The names stay in order. -/
namespace Trackplan.Search

/-- What reads regular expressions into patterns, with or without regard to case, and finds patterns
in texts. -/
structure Engine (π ε : Type) where
  read : Bool → String → Except ε π
  occursIn : π → String → Bool
  /-- What is said of an expression that cannot be read. -/
  message : ε → String

variable {π ε α : Type}

/-- Names with a part that follows the expression. -/
def byExpression (engine : Engine π ε) (text : α → String) (ignoreCase : Bool)
    (expression : String) (names : List α) : Except ε (List α) := do
  let pattern ← engine.read ignoreCase expression
  return names.filter fun name => engine.occursIn pattern (text name)

theorem byExpression_of_read {engine : Engine π ε} {ignoreCase : Bool} {expression : String}
    {pattern : π} (read : engine.read ignoreCase expression = .ok pattern) (text : α → String)
    (names : List α) : byExpression engine text ignoreCase expression names =
      .ok (names.filter fun name => engine.occursIn pattern (text name)) := by
  rw [byExpression, read]
  rfl

theorem byExpression_of_misread {engine : Engine π ε} {ignoreCase : Bool} {expression : String}
    {fault : ε} (misread : engine.read ignoreCase expression = .error fault) (text : α → String)
    (names : List α) : byExpression engine text ignoreCase expression names = .error fault := by
  rw [byExpression, misread]
  rfl

theorem byExpression_sublist {engine : Engine π ε} {text : α → String} {ignoreCase : Bool}
    {expression : String} {names kept : List α}
    (found : byExpression engine text ignoreCase expression names = .ok kept) :
    List.Sublist kept names := by
  cases read : engine.read ignoreCase expression with
  | error fault => rw [byExpression_of_misread read] at found; cases found
  | ok pattern =>
    rw [byExpression_of_read read] at found
    exact Except.ok.inj found ▸ List.filter_sublist

end Trackplan.Search
