import Trackplan.Regex.Form

/-! An estimate, in bytes, of the room that an expression takes as a table of states. It decides
which expressions this library finds too large; an engine that builds the table has the exact
count. -/
namespace Trackplan.Regex

/-- One state of the table. -/
def stateSize : Nat := 32

namespace SetForm

mutual

/-- Sets of many ranges take many states, for a character has up to four bytes. -/
def size : SetForm → Nat
  | .letter l => stateSize * l.char.utf8Size
  | .range first last =>
    if last.char.toNat < 128 then stateSize
    else 4 * stateSize * (last.char.utf8Size - first.char.utf8Size + 1)
  | .ascii _ negated => if negated then 16 * stateSize else 2 * stateSize
  | .shorthand .digit _ => 128 * stateSize
  | .shorthand .space _ => 16 * stateSize
  | .shorthand .word _ => 1420 * stateSize
  | .property _ _ => 320 * stateSize
  | .valued _ _ _ => 320 * stateSize
  | .bracket negated inner => inner.size + if negated then 16 * stateSize else 0
  | .union items => sizeOfList items
  | .operation _ left right => left.size + right.size

def sizeOfList : List SetForm → Nat
  | [] => 0
  | item :: items => item.size + sizeOfList items

end

end SetForm

namespace Form

mutual

/-- A repetition takes its body as often as the count says. A body that takes nothing is not
repeated. -/
def size : Form → Nat
  | .empty => 0
  | .flags _ => 0
  | .letter l => stateSize * l.char.utf8Size
  | .dot => 16 * stateSize
  | .anchor _ => stateSize
  | .set s => s.size
  | .repetition body least most =>
    if body.takesNothing then body.size
    else
      match most with
      | none => body.size * max least 1 + stateSize
      | some most => body.size * most + stateSize * (most - least)
  | .group _ body => body.size + 2 * stateSize
  | .alternation branches => sizeOfList branches + stateSize
  | .concat items => sizeOfList items

def sizeOfList : List Form → Nat
  | [] => 0
  | item :: items => item.size + sizeOfList items

end

end Form

end Trackplan.Regex
