import Trackplan.CommandLine.Answer
import Trackplan.Json.Text
import Trackplan.Likeness
import Trackplan.Search.ByPattern

/-! Runs with the tools of this library: its own regular expressions, JSON texts and measure of
likeness. -/
namespace Trackplan.CommandLine

abbrev Fault := Failure Regex.Fault

def tools : Tools Regex.Pattern Regex.Fault where
  engine := Regex.engine
  print value := value.pretty 0
  likeness := Likeness.measure

def Fault.message (fault : Fault) : String := Failure.message Regex.engine fault

def Options.run (o : Options) (g : Grammar) (c : Contents) : Except Fault Outcome :=
  (o.answer tools g c).outcome

def outcome (arguments : List String) : Outcome := tools.outcome arguments

end Trackplan.CommandLine
