/-! Patterns and where they occur. A set of places in a text of n characters is a list of n + 1
flags: the first stands before the first character, the last after the last one. -/
namespace Trackplan.Regex

/-- `most` absent means that the body may be repeated without end. -/
inductive Pattern
  | nothing
  | one (inSet : Char → Bool)
  | between (test : Option Char → Option Char → Bool)
  | both (first second : Pattern)
  | either (first second : Pattern)
  | repeated (body : Pattern) (least : Nat) (most : Option Nat)

abbrev Places := List Bool

namespace Places

def union (a b : Places) : Places := a.zipWith (· || ·) b

/-- The places right after a character of the set that stands at one of the given places. -/
def after (inSet : Char → Bool) (text : List Char) (places : Places) : Places :=
  false :: places.zipWith (fun flag c => flag && inSet c) text

/-- The places whose neighbours pass the test. -/
def pass (test : Option Char → Option Char → Bool) : Option Char → List Char → Places → Places
  | _, _, [] => []
  | before, [], flag :: _ => [flag && test before none]
  | before, c :: text, flag :: places =>
    (flag && test before (some c)) :: pass test (some c) text places

/-- A step taken up to `count` times; a step that changes nothing is the last one. -/
def steps (step : Places → Places) : Nat → Places → Places
  | 0, places => places
  | count + 1, places =>
    let next := step places
    if next = places then places else steps step count next

end Places

namespace Pattern

/-- The places where the pattern may end when it starts at one of the given places. Repetition
without end settles after one step for each place. -/
def ends (text : List Char) : Pattern → Places → Places
  | .nothing, places => places
  | .one inSet, places => places.after inSet text
  | .between test, places => places.pass test none text
  | .both first second, places => second.ends text (first.ends text places)
  | .either first second, places => (first.ends text places).union (second.ends text places)
  | .repeated body least most, places =>
    let further := match most with
      | some most => most - least
      | none => text.length + 1
    Places.steps (fun p => p.union (body.ends text p)) further
      (Places.steps (body.ends text) least places)

/-- Whether some part of the text, possibly an empty one, follows the pattern. -/
def occursIn (pattern : Pattern) (text : List Char) : Bool :=
  (pattern.ends text (List.replicate (text.length + 1) true)).any id

def ofList : List Pattern → Pattern
  | [] => .nothing
  | [pattern] => pattern
  | first :: rest => .both first (ofList rest)

def oneOf : List Pattern → Pattern
  | [] => .one fun _ => false
  | [pattern] => pattern
  | first :: rest => .either first (oneOf rest)

end Pattern

end Trackplan.Regex
