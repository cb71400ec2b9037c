import Trackplan.Regex.Fault
import Trackplan.Regex.Form
import Trackplan.Unicode.Property

/-! Reading what follows a backslash. Where blanks do not count, blanks and comments may stand
between the parts of an escape. -/
namespace Trackplan.Regex

/-- The first characters that pass the test, at most `most` of them, and the rest. Where blanks do
not count they are dropped before, between and after those characters; a comment ends with its
line. -/
def gather (blanks : Bool) (test : Char → Bool) :
    (inComment : Bool) → (most : Nat) → List Char → List Char × List Char
  | _, _, [] => ([], [])
  | true, most, c :: rest => gather blanks test (c != '\n') most rest
  | false, most, c :: rest =>
    if blanks && Unicode.isWhiteSpace c then gather blanks test false most rest
    else if blanks && c == '#' then gather blanks test true most rest
    else
      match most with
      | 0 => ([], c :: rest)
      | most + 1 =>
        if test c then
          let (taken, rest) := gather blanks test false most rest
          (c :: taken, rest)
        else ([], c :: rest)

def dropBlanks (blanks : Bool) (cs : List Char) : List Char :=
  (gather blanks (fun _ => false) false 0 cs).2

def gatherAll (blanks : Bool) (test : Char → Bool) (cs : List Char) : List Char × List Char :=
  gather blanks test false cs.length cs

inductive Escaped
  | letter (l : Letter)
  | set (s : SetForm)
  | anchor (a : Anchor)

namespace Escaped

def hexValue? (c : Char) : Option Nat :=
  if c.isDigit then some (c.toNat - '0'.toNat)
  else if 'a' ≤ c ∧ c ≤ 'f' then some (c.toNat - 'a'.toNat + 10)
  else if 'A' ≤ c ∧ c ≤ 'F' then some (c.toNat - 'A'.toNat + 10)
  else none

/-- The character with the code; surrogates and codes beyond the last character have none. -/
def charOfHex? (digits : List Char) : Option Char := do
  let values ← digits.mapM hexValue?
  let code := values.foldl (fun code digit => 16 * code + digit) 0
  if digits ≠ [] ∧ code.isValidChar then some (Char.ofNat code) else none

def isHex (c : Char) : Bool := (hexValue? c).isSome

/-- A character by its code: in braces, or by exactly `count` digits. -/
def hex (blanks : Bool) (count : Nat) (cs : List Char) : Except Fault (Escaped × List Char) :=
  match dropBlanks blanks cs with
  | [] => .error .endsEarly
  | '{' :: rest =>
    match gatherAll blanks isHex rest with
    | (digits, '}' :: rest) =>
      match charOfHex? digits with
      | some c => .ok (.letter ⟨c, false⟩, dropBlanks blanks rest)
      | none => .error .badEscape
    | _ => .error .badEscape
  | rest =>
    let (digits, rest) := gather blanks isHex false count rest
    match charOfHex? digits with
    | some c =>
      if digits.length = count then .ok (.letter ⟨c, count == 2⟩, rest) else .error .badEscape
    | none => .error .badEscape

/-- The parts before and after the first occurrence of the separator. -/
def splitAt? (separator : List Char) : List Char → Option (List Char × List Char)
  | [] => none
  | c :: rest =>
    if separator.isPrefixOf (c :: rest) then some ([], (c :: rest).drop separator.length)
    else (splitAt? separator rest).map fun (before, after) => (c :: before, after)

/-- A named set, or one given by a property and its value. A sign of inequality separates the two
as an equals sign does. -/
def named (negated : Bool) (name : List Char) : SetForm :=
  let parts := splitAt? ['!', '='] name <|> splitAt? [':'] name <|> splitAt? ['='] name
  match parts with
  | some (property, value) => .valued property value negated
  | none => .property name negated

/-- A set of characters by its name: one letter, or any name in braces. -/
def property (blanks negated : Bool) (cs : List Char) : Except Fault (Escaped × List Char) :=
  match dropBlanks blanks cs with
  | [] => .error .endsEarly
  | '{' :: rest =>
    match gatherAll blanks (· != '}') rest with
    | (name, _ :: rest) => .ok (.set (named negated name), rest)
    | (_, []) => .error .endsEarly
  | '\\' :: _ => .error .unknownSet
  | c :: rest => .ok (.set (.property [c] negated), dropBlanks blanks rest)

/-- A word boundary may be told by name. A brace that starts with no letter is left for the count
of a repetition. -/
def boundary (blanks : Bool) (cs : List Char) : Except Fault (Escaped × List Char) :=
  let isNameChar := fun c : Char => c.isAlpha || c == '-'
  match cs with
  | '{' :: rest =>
    match gatherAll blanks isNameChar rest with
    | (_, []) => .error .endsEarly
    | ([], _) => .ok (.anchor .wordBoundary, cs)
    | (name, '}' :: rest) =>
      match String.ofList name with
      | "start" => .ok (.anchor .wordStart, rest)
      | "end" => .ok (.anchor .wordEnd, rest)
      | "start-half" => .ok (.anchor .wordStartHalf, rest)
      | "end-half" => .ok (.anchor .wordEndHalf, rest)
      | _ => .error .badEscape
    | _ => .error .badEscape
  | _ => .ok (.anchor .wordBoundary, cs)

/-- Every character of ASCII but letters, digits and angle brackets stands for itself. -/
def isPlain (c : Char) : Bool :=
  c.toNat < 128 && !c.isAlphanum && c != '<' && c != '>'

/-- Reads what follows a backslash. -/
def read (blanks : Bool) : List Char → Except Fault (Escaped × List Char)
  | [] => .error .endsEarly
  | c :: rest =>
    let letter := fun c : Char => .ok (.letter ⟨c, false⟩, rest)
    let shorthand := fun s negated => .ok (.set (.shorthand s negated), rest)
    match c with
    | 'x' => hex blanks 2 rest
    | 'u' => hex blanks 4 rest
    | 'U' => hex blanks 8 rest
    | 'p' => property blanks false rest
    | 'P' => property blanks true rest
    | 'd' => shorthand .digit false
    | 's' => shorthand .space false
    | 'w' => shorthand .word false
    | 'D' => shorthand .digit true
    | 'S' => shorthand .space true
    | 'W' => shorthand .word true
    | 'a' => letter '\x07'
    | 'f' => letter '\x0c'
    | 't' => letter '\t'
    | 'n' => letter '\n'
    | 'r' => letter '\r'
    | 'v' => letter '\x0b'
    | 'A' => .ok (.anchor .textStart, rest)
    | 'z' => .ok (.anchor .textEnd, rest)
    | 'b' => boundary blanks rest
    | 'B' => .ok (.anchor .notWordBoundary, rest)
    | '<' => .ok (.anchor .wordStart, rest)
    | '>' => .ok (.anchor .wordEnd, rest)
    | c =>
      if c.isDigit then .error .backreference
      else if isPlain c then letter c
      else .error .badEscape

end Escaped

end Trackplan.Regex
