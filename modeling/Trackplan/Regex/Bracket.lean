import Trackplan.Regex.Escape

/-! Reading sets of characters in brackets. Sets nest, and the operators between them bind alike,
from left to right. -/
namespace Trackplan.Regex

/-- A bracket that is not closed yet. The last operand of an operation is still being read: it is
the union of the items, the latest first. -/
structure OpenBracket where
  negated : Bool
  operand? : Option (SetForm × SetOperator) := none
  items : List SetForm := []

namespace OpenBracket

def add (b : OpenBracket) (item : SetForm) : OpenBracket := { b with items := item :: b.items }

/-- What stands in the bracket so far. -/
def form (b : OpenBracket) : SetForm :=
  let last := SetForm.ofItems b.items.reverse
  match b.operand? with
  | none => last
  | some (left, operator) => .operation operator left last

def operate (b : OpenBracket) (operator : SetOperator) : OpenBracket :=
  { b with operand? := some (b.form, operator), items := [] }

/-- The start of a set, after its bracket. Hyphens in front stand for themselves, and so does a
closing bracket in the first place. -/
def start (blanks : Bool) (cs : List Char) : OpenBracket × List Char :=
  let (signs, rest) := gather blanks (· == '^') false 1 cs
  let (hyphens, rest) := gatherAll blanks (· == '-') rest
  let opened := OpenBracket.mk (!signs.isEmpty) none (hyphens.map fun c => .letter ⟨c, false⟩)
  match hyphens, rest with
  | [], ']' :: rest => (opened.add (.letter ⟨']', false⟩), rest)
  | _, _ => (opened, rest)

end OpenBracket

namespace Bracket

/-- A class written by name between colons, after its opening bracket. -/
def ascii? (cs : List Char) : Option (SetForm × List Char) :=
  match cs with
  | ':' :: rest =>
    let (negated, rest) := match rest with
      | '^' :: rest => (true, rest)
      | _ => (false, rest)
    match rest.dropWhile (· != ':') with
    | ':' :: ']' :: after =>
      (AsciiClass.ofName? (.ofList (rest.takeWhile (· != ':')))).map fun c =>
        (.ascii c negated, after)
    | _ => none
  | _ => none

/-- One character or one escape. -/
def atom (blanks : Bool) : List Char → Except Fault (Escaped × List Char)
  | [] => .error .unclosedSet
  | '\\' :: rest => Escaped.read blanks rest
  | c :: rest => .ok (.letter ⟨c, false⟩, rest)

/-- The next character, seen past blanks and the first mark of a comment. -/
def peek? (blanks : Bool) (cs : List Char) : Option Char :=
  if blanks then
    match cs.dropWhile Unicode.isWhiteSpace with
    | '#' :: rest => (rest.dropWhile Unicode.isWhiteSpace).head?
    | rest => rest.head?
  else cs.head?

/-- One character, an escaped set, or a range. A hyphen makes no range before another hyphen or
before the closing bracket. -/
def item (blanks : Bool) (cs : List Char) : Except Fault (SetForm × List Char) := do
  let (first, rest) ← atom blanks cs
  let single : Except Fault SetForm := match first with
    | .letter l => .ok (.letter l)
    | .set s => .ok s
    | .anchor _ => .error .notInSet
  match dropBlanks blanks rest with
  | [] => .error .unclosedSet
  | '-' :: after =>
    if peek? blanks after = some ']' ∨ peek? blanks after = some '-' then
      return (← single, '-' :: after)
    let (last, rest) ← atom blanks (dropBlanks blanks after)
    match first, last with
    | .letter first, .letter last =>
      if first.char ≤ last.char then .ok (.range first last, rest) else .error .badRange
    | _, _ => .error .badRange
  | rest => return (← single, rest)

/-- Reads to the end of the outermost bracket. Every step takes a character, so as many steps as
there are characters are enough. -/
def readFrom (blanks : Bool) :
    (steps : Nat) → OpenBracket → List OpenBracket → List Char → Except Fault (SetForm × List Char)
  | 0, _, _, _ => .error .unclosedSet
  | steps + 1, current, outer, cs =>
    match dropBlanks blanks cs with
    | [] => .error .unclosedSet
    | '[' :: rest =>
      match ascii? rest with
      | some (form, rest) => readFrom blanks steps (current.add form) outer rest
      | none =>
        let (inner, rest) := OpenBracket.start blanks rest
        readFrom blanks steps inner (current :: outer) rest
    | ']' :: rest =>
      let form := SetForm.bracket current.negated current.form
      match outer with
      | [] => .ok (form, rest)
      | next :: outer => readFrom blanks steps (next.add form) outer rest
    | '&' :: '&' :: rest => readFrom blanks steps (current.operate .intersection) outer rest
    | '-' :: '-' :: rest => readFrom blanks steps (current.operate .difference) outer rest
    | '~' :: '~' :: rest =>
      readFrom blanks steps (current.operate .symmetricDifference) outer rest
    | rest => do
      let (form, rest) ← item blanks rest
      readFrom blanks steps (current.add form) outer rest

/-- Reads a set after its opening bracket. -/
def read (blanks : Bool) (cs : List Char) : Except Fault (SetForm × List Char) :=
  let (opened, rest) := OpenBracket.start blanks cs
  readFrom blanks (rest.length + 1) opened [] rest

end Bracket

end Trackplan.Regex
