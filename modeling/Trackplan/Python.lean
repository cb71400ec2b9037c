import Trackplan.Contents
import Trackplan.Python.Call
import Trackplan.Python.ControlFlow
import Trackplan.Python.Definition
import Trackplan.Python.Display
import Trackplan.Python.Matching
import Trackplan.Python.Operator
import Trackplan.Python.Primary
import Trackplan.Python.Program
import Trackplan.Python.SimpleStatement
import Trackplan.Python.Target
import Trackplan.Python.TypeParameter

/-! The grammar of Python, written for diagrams: chains of binary operators are flat, and
lookaheads and cuts survive as notes only. Grammar and contents are two readings of one list of
chapters, so every rule stands in exactly one section. -/
namespace Trackplan.Python

def chapters : List Chapter := [
  starting, statements, simpleStatements, imports, compound, parameters, controlFlow,
  matching, typeParameters, expressions, comparisons, bitwise, arithmetic, primaries, lambdas,
  literals, collections, comprehensions, arguments, targets, typing]

def definitions : List (String × Expr) :=
  chapters.flatMap fun chapter => chapter.definitions.map fun d => (d.name, d.body)

def rows : List Contents.Row :=
  chapters.map fun chapter => ⟨chapter.id, chapter.title, chapter.definitions.map (·.name)⟩

def grammar : Except Name.Fault Grammar := Grammar.ofDefinitions definitions

def contents : Except Contents.Fault Contents := Contents.ofRows rows

end Trackplan.Python
