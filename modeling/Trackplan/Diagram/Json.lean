import Trackplan.Diagram.Basic
import Trackplan.Json

/-! Diagrams as JSON. A node gives its kind first. -/
namespace Trackplan

def Terminal.Kind.json : Terminal.Kind → Json
  | .token => .text "token"
  | .literal => .text "literal"
  | .keyword => .text "keyword"
  | .softKeyword => .text "soft_keyword"

def Least.json : Least → Json
  | .zero => .text "zero"
  | .one => .text "one"

namespace Diagram

namespace Node

def tagged (kind : String) (fields : List (String × Json)) : Json :=
  .object (("type", .text kind) :: fields)

mutual

def json : Node → Json
  | .terminal t => tagged "terminal" [("text", .text t.text), ("kind", t.kind.json)]
  | .reference name => tagged "non_terminal" [("name", .text name)]
  | .skip => tagged "skip" []
  | .sequence items => tagged "sequence" [("items", .list (jsons items))]
  | .choice paths default =>
    tagged "choice" [("default", .number default), ("paths", .list (jsons paths))]
  | .optional body => tagged "optional" [("body", body.json)]
  | .repetition least body none =>
    tagged "repeat" [("body", body.json), ("separator", .null), ("min", least.json)]
  | .repetition least body (some separator) =>
    tagged "repeat" [("body", body.json), ("separator", separator.json), ("min", least.json)]
  | .comment text => tagged "comment" [("text", .text text)]
  | .missing name => tagged "missing" [("name", .text name)]

def jsons : List Node → List Json
  | [] => []
  | n :: rest => n.json :: jsons rest

end

end Node

def json (d : Diagram) : Json :=
  .object [("rule", Json.optional (fun name => .text name.text) d.rule), ("root", d.root.json)]

end Diagram

end Trackplan
