import Trackplan.Regex.Fault
import Trackplan.Regex.Form
import Trackplan.Regex.Pattern
import Trackplan.Unicode.ByName

/-! What a written expression stands for. Flags hold from where they are switched to the end of
the group around them, across its branches. Expressions are about characters; where the Unicode
flag is off they are about bytes, and then only sets within ASCII are accepted, for a set of other
bytes could match a part of a character. -/
namespace Trackplan.Regex

structure Flags where
  ignoreCase : Bool := false
  multiLine : Bool := false
  dotAll : Bool := false
  unicode : Bool := true
  carriageReturn : Bool := false

namespace Flags

/-- Flags that do not change what is matched are read and dropped. -/
def set (f : Flags) : Flag × Bool → Flags
  | (.ignoreCase, on) => { f with ignoreCase := on }
  | (.multiLine, on) => { f with multiLine := on }
  | (.dotAll, on) => { f with dotAll := on }
  | (.unicode, on) => { f with unicode := on }
  | (.carriageReturn, on) => { f with carriageReturn := on }
  | (.swapGreed, _) => f
  | (.ignoreBlanks, _) => f

def change (f : Flags) (changes : FlagChange) : Flags := changes.foldl set f

/-- The two cases of a letter of ASCII. -/
def asciiVariants (c : Char) : List Char :=
  if c.isUpper then [c, c.toLower] else if c.isLower then [c, c.toUpper] else [c]

/-- Where case does not count, a set takes every variant of its characters. -/
def widened (f : Flags) (inSet : Char → Bool) : Char → Bool :=
  if f.ignoreCase then
    if f.unicode then fun c => (Unicode.caseVariants c).any inSet
    else fun c => (asciiVariants c).any inSet
  else inSet

/-- The complement of a set of ASCII contains bytes that are no characters. -/
def complement (f : Flags) (negated : Bool) (inSet : Char → Bool) :
    Except Fault (Char → Bool) :=
  if negated then if f.unicode then .ok fun c => !inSet c else .error .notText else .ok inSet

def isWordChar (f : Flags) (c : Char) : Bool :=
  if f.unicode then Unicode.isWordChar c else AsciiClass.word.has c

/-- A letter outside of sets. -/
def letter (f : Flags) (l : Letter) : Except Fault (Char → Bool) :=
  if !f.unicode && l.isByte && 128 ≤ l.char.toNat then .error .notText
  else if !f.unicode && 128 ≤ l.char.toNat then .ok (· == l.char)
  else .ok (f.widened (· == l.char))

/-- A letter inside of a set. -/
def member (f : Flags) (l : Letter) : Except Fault Char :=
  if !f.unicode && 128 ≤ l.char.toNat then .error .notText else .ok l.char

def dot (f : Flags) : Except Fault (Char → Bool) :=
  if !f.unicode then .error .notText
  else if f.dotAll then .ok fun _ => true
  else if f.carriageReturn then .ok fun c => c != '\n' && c != '\r'
  else .ok (· != '\n')

end Flags

namespace Shorthand

def has (f : Flags) (c : Char) : Shorthand → Bool
  | .digit => if f.unicode then Unicode.Category.decimalNumber.has c else c.isDigit
  | .space => if f.unicode then Unicode.isWhiteSpace c else AsciiClass.space.has c
  | .word => f.isWordChar c

end Shorthand

namespace SetOperator

def apply (left right : Char → Bool) (c : Char) : SetOperator → Bool
  | .intersection => left c && right c
  | .difference => left c && !right c
  | .symmetricDifference => left c != right c

end SetOperator

namespace SetForm

mutual

/-- The characters of a set. Case is ignored before a set is complemented and before two sets are
combined. Shorthands hold all variants of their characters, so they stay as they are. -/
def chars (f : Flags) : SetForm → Except Fault (Char → Bool)
  | .letter l => do
    let char ← f.member l
    return (· == char)
  | .range first last => do
    let first ← f.member first
    let last ← f.member last
    return fun c => first ≤ c && c ≤ last
  | .ascii cls negated => f.complement negated (f.widened cls.has)
  | .shorthand s negated => f.complement negated (s.has f)
  | .property name negated =>
    named f negated (Unicode.setNamed? (Unicode.looseName name))
  | .valued key value negated =>
    named f negated (Unicode.setValued? (Unicode.looseName key) (Unicode.looseName value))
  | .bracket negated inner => do f.complement negated (f.widened (← inner.chars f))
  | .union items => charsOfAny f items
  | .operation operator left right => do
    let left ← left.chars f
    let right ← right.chars f
    return operator.apply (f.widened left) (f.widened right)

def charsOfAny (f : Flags) : List SetForm → Except Fault (Char → Bool)
  | [] => .ok fun _ => false
  | item :: items => do
    let first ← item.chars f
    let others ← charsOfAny f items
    return fun c => first c || others c

/-- Sets by name are about characters only. -/
def named (f : Flags) (negated : Bool) (inSet? : Option (Char → Bool)) :
    Except Fault (Char → Bool) :=
  match inSet? with
  | some inSet => if f.unicode then f.complement negated (f.widened inSet) else .error .notText
  | none => .error .unknownSet

end

end SetForm

namespace Anchor

/-- Whether a place passes, by the characters before it and after it. -/
def holds (f : Flags) (a : Anchor) (before after : Option Char) : Bool :=
  let wordBefore := before.any f.isWordChar
  let wordAfter := after.any f.isWordChar
  match a with
  | .textStart => before.isNone
  | .textEnd => after.isNone
  | .lineStart =>
    before.isNone || f.multiLine &&
      (before == some '\n' || f.carriageReturn && before == some '\r' && after != some '\n')
  | .lineEnd =>
    after.isNone || f.multiLine &&
      if f.carriageReturn then
        after == some '\r' || after == some '\n' && before != some '\r'
      else after == some '\n'
  | .wordBoundary => wordBefore != wordAfter
  | .notWordBoundary => wordBefore == wordAfter
  | .wordStart => !wordBefore && wordAfter
  | .wordEnd => wordBefore && !wordAfter
  | .wordStartHalf => !wordBefore
  | .wordEndHalf => !wordAfter

end Anchor

namespace Form

mutual

/-- The pattern of a form, and the flags that hold after it. -/
def meaning (f : Flags) : Form → Except Fault (Pattern × Flags)
  | .empty => .ok (.nothing, f)
  | .flags changes => .ok (.nothing, f.change changes)
  | .letter l => do return (.one (← f.letter l), f)
  | .dot => do return (.one (← f.dot), f)
  | .anchor a => .ok (.between (a.holds f), f)
  | .set s => do return (.one (← s.chars f), f)
  | .repetition body least most => do
    let (body, after) ← body.meaning f
    return (.repeated body least most, after)
  | .group changes body => do
    let (body, _) ← body.meaning (f.change changes)
    return (body, f)
  | .alternation branches => do
    let (branches, after) ← meanings f branches
    return (.oneOf branches, after)
  | .concat items => do
    let (items, after) ← meanings f items
    return (.ofList items, after)

def meanings (f : Flags) : List Form → Except Fault (List Pattern × Flags)
  | [] => .ok ([], f)
  | form :: forms => do
    let (first, after) ← form.meaning f
    let (others, after) ← meanings after forms
    return (first :: others, after)

end

end Form

end Trackplan.Regex
