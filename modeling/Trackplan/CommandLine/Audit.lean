import Trackplan.CommandLine.Page

/-! The check of a grammar and its contents. -/
namespace Trackplan.CommandLine

inductive Problem
  | duplicate (rule : Name)
  | dangling (reference : Reference)
  | invalid (rule : Name) (fault : Expr.Fault)
  | unknown (id rule : Name)
  | unsectioned (rule : Name)
  deriving DecidableEq

def Problem.message : Problem → String
  | .duplicate rule => "duplicate: " ++ rule.text
  | .dangling r => "dangling: " ++ r.source.text ++ " -> " ++ r.target
  | .invalid rule fault => "invalid: " ++ rule.text ++ ": " ++ fault.message
  | .unknown id rule => "unknown: " ++ id.text ++ "/" ++ rule.text
  | .unsectioned rule => "unsectioned: " ++ rule.text

/-- All problems in the order in which they are reported. -/
def problems (g : Grammar) (c : Contents) : List Problem :=
  let report := c.coverage g
  g.redefinitions.map (fun warning => .duplicate warning.name) ++
    g.dangling.map .dangling ++
    g.faults.map (fun (rule, fault) => .invalid rule fault) ++
    report.unknown.map (fun (id, rule) => .unknown id rule) ++
    report.unlisted.map .unsectioned

/-- One line for each problem and one that counts them. A check that finds a problem exits with
one. -/
def auditPage {ε : Type} (g : Grammar) (c : Contents) : Written ε Nat := do
  let found := problems g c
  found.forM fun p => .write (line p.message)
  .write (line (toString g.size ++ " rules, " ++ toString c.size ++ " sections, " ++
    toString found.length ++ " problem(s)"))
  return if found.isEmpty then 0 else 1

end Trackplan.CommandLine
