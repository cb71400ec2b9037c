/-! Values of the JSON format. Fields keep the order in which they are given. -/
namespace Trackplan

inductive Json
  | null
  | number (n : Nat)
  | text (s : String)
  | list (items : List Json)
  | object (fields : List (String × Json))

namespace Json

def optional {α : Type} (encode : α → Json) : Option α → Json
  | none => .null
  | some a => encode a

end Json

end Trackplan
