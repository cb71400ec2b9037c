import Trackplan.Regex.Bracket

/-! Reading regular expressions. Open groups are kept on a stack, so a text is read from left to
right in one pass. -/
namespace Trackplan.Regex

/-- One level of grouping: the branches that are complete and the items of the branch being read,
the latest first in both. -/
structure Level where
  branches : List Form := []
  items : List Form := []

namespace Level

def branch (level : Level) : Form := Form.ofItems level.items.reverse

def form (level : Level) : Form := Form.ofBranches (level.branch :: level.branches).reverse

def add (level : Level) (item : Form) : Level := { level with items := item :: level.items }

def alternate (level : Level) : Level := ⟨level.branch :: level.branches, []⟩

/-- Repetition applies to the last item. -/
def repeated (level : Level) (least : Nat) (most : Option Nat) : Except Fault Level :=
  match level.items with
  | [] => .error .nothingToRepeat
  | last :: items =>
    if last.isRepeatable then .ok { level with items := .repetition last least most :: items }
    else .error .nothingToRepeat

end Level

/-- A group that is not closed yet: the level around it, the flags it switches, and whether blanks
count after it. -/
structure OpenGroup where
  around : Level
  change : FlagChange
  blanks : Bool

/-- What has been read. `blanks` is set where blanks do not count. -/
structure Reading where
  blanks : Bool := false
  level : Level := {}
  groups : List OpenGroup := []
  names : List (List Char) := []

namespace Reading

def add (r : Reading) (item : Form) : Reading := { r with level := r.level.add item }

def openGroup (r : Reading) (change : FlagChange) : Reading :=
  { r with
    blanks := (change.state? .ignoreBlanks).getD r.blanks
    level := {}
    groups := ⟨r.level, change, r.blanks⟩ :: r.groups }

def closeGroup (r : Reading) : Except Fault Reading :=
  match r.groups with
  | [] => .error .unopenedGroup
  | g :: groups =>
    .ok { r with
      blanks := g.blanks
      level := g.around.add (.group g.change r.level.form)
      groups }

/-- Flags and the character that ends them. Flags after a hyphen are switched off; none may be
switched twice, and the hyphen may not stand last. -/
def flags : (on : Bool) → (bare : Bool) → FlagChange → List Char →
    Except Fault (FlagChange × Char × List Char)
  | _, _, _, [] => .error .endsEarly
  | on, bare, change, c :: rest =>
    if c = ':' ∨ c = ')' then
      if bare then .error .badFlags else .ok (change.reverse, c, rest)
    else if c = '-' then if on then flags false true change rest else .error .badFlags
    else
      match Flag.ofChar? c with
      | none => .error .badFlags
      | some flag =>
        if (change.state? flag).isSome then .error .badFlags
        else flags on false ((flag, on) :: change) rest

def isNameStart (c : Char) : Bool := c == '_' || Unicode.isAlphabetic c

def isNamePart (c : Char) : Bool :=
  c == '_' || c == '.' || c == '[' || c == ']' || Unicode.isAlphabetic c ||
    Unicode.Category.anyHas Unicode.Category.numbers c

/-- The name of a group, up to the bracket that ends it. -/
def groupName (cs : List Char) : Except Fault (List Char × List Char) :=
  match cs.takeWhile (· != '>'), cs.dropWhile (· != '>') with
  | first :: others, _ :: rest =>
    if isNameStart first ∧ others.all isNamePart then .ok (first :: others, rest)
    else .error .badGroupName
  | _, _ => .error .badGroupName

def openNamed (r : Reading) (cs : List Char) : Except Fault (Reading × List Char) := do
  let (name, rest) ← groupName cs
  if r.names.contains name then .error .repeatedGroupName
  else .ok ({ r with names := name :: r.names }.openGroup [], rest)

/-- Reads the start of a group after its bracket. Flags alone make no group: they hold to the end
of the group around them. -/
def startGroup (r : Reading) (cs : List Char) : Except Fault (Reading × List Char) :=
  match dropBlanks r.blanks cs with
  | '?' :: '=' :: _ => .error .lookaround
  | '?' :: '!' :: _ => .error .lookaround
  | '?' :: '<' :: '=' :: _ => .error .lookaround
  | '?' :: '<' :: '!' :: _ => .error .lookaround
  | '?' :: 'P' :: '<' :: rest => r.openNamed rest
  | '?' :: '<' :: rest => r.openNamed rest
  | '?' :: rest => do
    let (change, ending, rest) ← flags true false [] rest
    if ending = ':' then .ok (r.openGroup change, rest)
    else if change = [] then .error .nothingToRepeat
    else
      let blanks := (change.state? .ignoreBlanks).getD r.blanks
      .ok ({ r with blanks }.add (.flags change), rest)
  | rest => .ok (r.openGroup [], rest)

/-- A lazy repetition takes the same texts as an eager one. -/
def dropLazy : List Char → List Char
  | '?' :: rest => rest
  | rest => rest

/-- Counts are below this, the thirty-second power of two. -/
def countLimit : Nat := 4294967296

/-- A count in decimal digits. Blanks may always stand around it. -/
def number (blanks : Bool) (cs : List Char) : Option Nat × List Char :=
  let (digits, rest) := gatherAll blanks Char.isDigit (cs.dropWhile Unicode.isWhiteSpace)
  let value := digits.foldl (fun value d => 10 * value + (d.toNat - '0'.toNat)) 0
  (if digits ≠ [] ∧ value < countLimit then some value else none,
    rest.dropWhile Unicode.isWhiteSpace)

/-- Reads a counted repetition after its brace: a count, a least count, or both bounds. -/
def counted (r : Reading) (cs : List Char) : Except Fault (Reading × List Char) := do
  let close := fun (least : Nat) (most : Option Nat) (rest : List Char) => do
    let level ← r.level.repeated least most
    return ({ r with level }, dropLazy (dropBlanks r.blanks rest))
  match number r.blanks (dropBlanks r.blanks cs) with
  | (some count, '}' :: rest) => close count (some count) rest
  | (some least, ',' :: rest) =>
    match dropBlanks r.blanks rest with
    | '}' :: rest => close least none rest
    | rest =>
      match number r.blanks rest with
      | (some most, '}' :: rest) =>
        if least ≤ most then close least (some most) rest else .error .badCount
      | _ => .error .badCount
  | _ => .error .badCount

def repeated (r : Reading) (least : Nat) (most : Option Nat) (rest : List Char) :
    Except Fault (Reading × List Char) := do
  let level ← r.level.repeated least most
  return ({ r with level }, dropLazy rest)

/-- Reads one item or one sign, which starts with the given character. -/
def step (r : Reading) (c : Char) (rest : List Char) : Except Fault (Reading × List Char) :=
  match c with
  | '(' => r.startGroup rest
  | ')' => r.closeGroup.map fun r => (r, rest)
  | '|' => .ok ({ r with level := r.level.alternate }, rest)
  | '[' => (Bracket.read r.blanks rest).map fun (form, rest) => (r.add (.set form), rest)
  | '?' => r.repeated 0 (some 1) rest
  | '*' => r.repeated 0 none rest
  | '+' => r.repeated 1 none rest
  | '{' => r.counted rest
  | '.' => .ok (r.add .dot, rest)
  | '^' => .ok (r.add (.anchor .lineStart), rest)
  | '$' => .ok (r.add (.anchor .lineEnd), rest)
  | '\\' =>
    (Escaped.read r.blanks rest).map fun (escaped, rest) =>
      (r.add (match escaped with
        | .letter l => .letter l
        | .set s => .set s
        | .anchor a => .anchor a), rest)
  | c => .ok (r.add (.letter ⟨c, false⟩), rest)

/-- Every step takes a character, so as many steps as there are characters are enough. -/
def toEnd : (steps : Nat) → Reading → List Char → Except Fault Form
  | 0, _, _ => .error .endsEarly
  | steps + 1, r, cs =>
    match dropBlanks r.blanks cs with
    | [] => if r.groups.isEmpty then .ok r.level.form else .error .unclosedGroup
    | c :: rest => do
      let (r, rest) ← r.step c rest
      toEnd steps r rest

end Reading

/-- The written form of a text. -/
def Form.ofText (text : List Char) : Except Fault Form := do
  let form ← Reading.toEnd (text.length + 1) {} text
  if Fault.depthLimit < form.depth then .error .tooDeep else .ok form

end Trackplan.Regex
