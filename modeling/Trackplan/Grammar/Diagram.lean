import Trackplan.Diagram.OfExpr
import Trackplan.Grammar.Basic

/-! The diagrams of a grammar's rules. -/
namespace Trackplan

def Rule.diagram (rule : Rule) : Diagram := ⟨some rule.name, .ofExpr rule.body⟩

namespace Grammar

/-- The diagram of the rule of that name, or what stands for a missing one. -/
def diagram (g : Grammar) (name : String) : Diagram :=
  match g.find? name with
  | some rule => rule.diagram
  | none => .missing name

def diagrams (g : Grammar) : List Diagram := g.rules.map Rule.diagram

end Grammar

end Trackplan
