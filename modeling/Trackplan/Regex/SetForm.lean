/-! Sets of characters as they are written inside a regular expression. -/
namespace Trackplan.Regex

/-- A character written for itself. One written by two hexadecimal digits stands for a byte where
the expression is about bytes. -/
structure Letter where
  char : Char
  isByte : Bool := false

inductive Shorthand
  | digit | space | word

/-- The classes that are written by name between colons, all within ASCII. -/
inductive AsciiClass
  | alnum | alpha | ascii | blank | cntrl | digit | graph | lower | print | punct | space | upper
  | word | xdigit

inductive SetOperator
  | intersection | difference | symmetricDifference

inductive SetForm
  | letter (l : Letter)
  | range (first last : Letter)
  | ascii (c : AsciiClass) (negated : Bool)
  | shorthand (s : Shorthand) (negated : Bool)
  | property (name : List Char) (negated : Bool)
  | valued (property value : List Char) (negated : Bool)
  | bracket (negated : Bool) (inner : SetForm)
  | union (items : List SetForm)
  | operation (operator : SetOperator) (left right : SetForm)

namespace AsciiClass

def ofName? : String → Option AsciiClass
  | "alnum" => some .alnum
  | "alpha" => some .alpha
  | "ascii" => some .ascii
  | "blank" => some .blank
  | "cntrl" => some .cntrl
  | "digit" => some .digit
  | "graph" => some .graph
  | "lower" => some .lower
  | "print" => some .print
  | "punct" => some .punct
  | "space" => some .space
  | "upper" => some .upper
  | "word" => some .word
  | "xdigit" => some .xdigit
  | _ => none

def has (c : Char) : AsciiClass → Bool
  | .alnum => c.isAlphanum
  | .alpha => c.isAlpha
  | .ascii => c.toNat < 128
  | .blank => c == ' ' || c == '\t'
  | .cntrl => c.toNat < 32 || c.toNat == 127
  | .digit => c.isDigit
  | .graph => 32 < c.toNat && c.toNat < 127
  | .lower => c.isLower
  | .print => 32 ≤ c.toNat && c.toNat < 127
  | .punct => 32 < c.toNat && c.toNat < 127 && !c.isAlphanum
  | .space => c == ' ' || 9 ≤ c.toNat && c.toNat ≤ 13
  | .upper => c.isUpper
  | .word => c.isAlphanum || c == '_'
  | .xdigit => c.isDigit || 'a' ≤ c && c ≤ 'f' || 'A' ≤ c && c ≤ 'F'

end AsciiClass

namespace SetForm

/-- A union of one part is that part. -/
def ofItems : List SetForm → SetForm
  | [item] => item
  | items => .union items

mutual

/-- Levels of brackets, operations and unions. -/
def depth : SetForm → Nat
  | .bracket _ inner => inner.depth + 1
  | .union [] => 0
  | .union (item :: items) => max item.depth (depthOfList items) + 1
  | .operation _ left right => max left.depth right.depth + 1
  | _ => 0

def depthOfList : List SetForm → Nat
  | [] => 0
  | item :: items => max item.depth (depthOfList items)

end

end SetForm

end Trackplan.Regex
