import Trackplan.Regex
import Trackplan.Search.ByExpression

/-! Choosing names by the regular expressions of this library. They stand in for those of a program's
own engine, whose syntax they follow; whether an expression is too large is only estimated. -/
namespace Trackplan

def Regex.engine : Search.Engine Regex.Pattern Regex.Fault where
  read := Regex.Pattern.ofText
  occursIn pattern text := pattern.occursIn text.toList
  message := Regex.Fault.message

def Search.byPattern {α : Type} (text : α → String) (ignoreCase : Bool) (expression : String)
    (names : List α) : Except Regex.Fault (List α) :=
  byExpression Regex.engine text ignoreCase expression names

end Trackplan
