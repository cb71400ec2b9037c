import Trackplan.Json

/-! The text of JSON values, on several lines, as this library writes it. Programs may bring a
printer of their own. -/
namespace Trackplan.Json

/-- A digit of a base up to sixteen, in lower case. -/
def hexDigit (n : Nat) : Char :=
  Char.ofNat (if n < 10 then '0'.toNat + n else 'a'.toNat + n - 10)

/-- Quotes, backslashes and control characters below the blank are escaped, and nothing else. -/
def quotedChar (c : Char) : List Char :=
  match c with
  | '"' => ['\\', '"']
  | '\\' => ['\\', '\\']
  | '\x08' => ['\\', 'b']
  | '\x0c' => ['\\', 'f']
  | '\n' => ['\\', 'n']
  | '\r' => ['\\', 'r']
  | '\t' => ['\\', 't']
  | c =>
    if c.toNat < 32 then ['\\', 'u', '0', '0', hexDigit (c.toNat / 16), hexDigit (c.toNat % 16)]
    else [c]

def quoted (s : String) : String :=
  "\"" ++ String.ofList (s.toList.flatMap quotedChar) ++ "\""

/-- A new line with two blanks for each level. -/
def newLine (level : Nat) : String := "\n" ++ String.ofList (List.replicate (2 * level) ' ')

/-- Parts between two brackets, each on a line of its own. Without parts the brackets touch. -/
def enclosed (opening closing : String) (level : Nat) : List String → String
  | [] => opening ++ closing
  | parts =>
    opening ++ newLine (level + 1) ++ String.intercalate ("," ++ newLine (level + 1)) parts ++
      newLine level ++ closing

mutual

/-- The text of a value that starts at the given level. -/
def pretty (level : Nat) : Json → String
  | .null => "null"
  | .number n => toString n
  | .text s => quoted s
  | .list items => enclosed "[" "]" level (prettyItems (level + 1) items)
  | .object fields => enclosed "\x7b" "\x7d" level (prettyFields (level + 1) fields)

def prettyItems (level : Nat) : List Json → List String
  | [] => []
  | item :: items => item.pretty level :: prettyItems level items

def prettyFields (level : Nat) : List (String × Json) → List String
  | [] => []
  | field :: fields => prettyField level field :: prettyFields level fields

def prettyField (level : Nat) : String × Json → String
  | (key, value) => quoted key ++ ": " ++ value.pretty level

end

theorem prettyItems_eq (level : Nat) (items : List Json) :
    prettyItems level items = items.map (pretty level) := by
  induction items with
  | nil => rfl
  | cons item items ih => simp [prettyItems, ih]

end Trackplan.Json
