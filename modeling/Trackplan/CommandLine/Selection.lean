import Trackplan.CommandLine.Options
import Trackplan.Contents
import Trackplan.Grid.Basic
import Trackplan.Search.ByExpression
import Trackplan.Search.ByText

/-! The sections and rules that the options choose. -/
namespace Trackplan.CommandLine

/-- Why a run fails. -/
inductive Failure (ε : Type)
  | unknownSection (id : String)
  | badExpression (fault : ε)
  | badDrawing (fault : Grid.Fault)
  | badGrammar (fault : Name.Fault)
  | badContents (fault : Contents.Fault)

variable {π ε : Type}

/-- What is said of a failure. The engine speaks for expressions that it cannot read. -/
def Failure.message (engine : Search.Engine π ε) : Failure ε → String
  | .unknownSection id => "unknown section `" ++ id ++ "`"
  | .badExpression fault => engine.message fault
  | .badDrawing fault => "railroad render failed: " ++ fault.message
  | .badGrammar fault => fault.message
  | .badContents fault => fault.message

namespace Options

def chosenRules (o : Options) (engine : Search.Engine π ε) (names : List Name) :
    Except ε (List Name) :=
  match o.filter with
  | none => .ok names
  | some query =>
    if o.regex then Search.byExpression engine Name.text true query names
    else .ok (Search.byQuery Name.text query names)

def wants (o : Options) (s : Section) : Bool :=
  match o.sectionId with
  | none => true
  | some id => s.id.text == id

/-- The sections that are asked for, each with those of its rules that are. -/
def chosenSections (o : Options) (engine : Search.Engine π ε) (c : Contents) :
    Except ε (List Section) :=
  (c.sections.filter o.wants).mapM fun s => do
    return { s with rules := ← o.chosenRules engine s.rules }

/-- A section that does not exist is a fault, and so no expression is read for it. -/
def selection (o : Options) (engine : Search.Engine π ε) (c : Contents) :
    Except (Failure ε) (List Section) := do
  let chosen ← (o.chosenSections engine c).mapError .badExpression
  match o.sectionId, chosen with
  | some id, [] => .error (.unknownSection id)
  | _, _ => return chosen

/-- A query hides the sections in which it finds nothing. -/
def hides (o : Options) (s : Section) : Bool := o.filter.isSome && s.rules.isEmpty

end Options

end Trackplan.CommandLine
