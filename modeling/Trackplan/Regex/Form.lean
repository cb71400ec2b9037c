import Trackplan.Regex.SetForm

/-! Regular expressions as they are written. -/
namespace Trackplan.Regex

inductive Flag
  | ignoreCase | multiLine | dotAll | swapGreed | unicode | carriageReturn | ignoreBlanks
  deriving DecidableEq

def Flag.ofChar? : Char → Option Flag
  | 'i' => some .ignoreCase
  | 'm' => some .multiLine
  | 's' => some .dotAll
  | 'U' => some .swapGreed
  | 'u' => some .unicode
  | 'R' => some .carriageReturn
  | 'x' => some .ignoreBlanks
  | _ => none

/-- The flags that are switched, each on or off. -/
abbrev FlagChange := List (Flag × Bool)

def FlagChange.state? (change : FlagChange) (flag : Flag) : Option Bool := change.lookup flag

inductive Anchor
  | textStart | textEnd | lineStart | lineEnd
  | wordBoundary | notWordBoundary
  | wordStart | wordEnd | wordStartHalf | wordEndHalf

inductive Form
  | empty
  | flags (change : FlagChange)
  | letter (l : Letter)
  | dot
  | anchor (a : Anchor)
  | set (s : SetForm)
  | repetition (body : Form) (least : Nat) (most : Option Nat)
  | group (change : FlagChange) (body : Form)
  | alternation (branches : List Form)
  | concat (items : List Form)

namespace Form

def ofItems : List Form → Form
  | [] => .empty
  | [item] => item
  | items => .concat items

def ofBranches : List Form → Form
  | [branch] => branch
  | branches => .alternation branches

/-- Only flags cannot be repeated. -/
def isRepeatable : Form → Bool
  | .empty => false
  | .flags _ => false
  | _ => true

mutual

/-- Levels of everything that holds something else. -/
def depth : Form → Nat
  | .set (.bracket negated inner) => (SetForm.bracket negated inner).depth
  | .repetition body _ _ => body.depth + 1
  | .group _ body => body.depth + 1
  | .alternation branches => depthOfList branches + 1
  | .concat items => depthOfList items + 1
  | _ => 0

def depthOfList : List Form → Nat
  | [] => 0
  | item :: items => max item.depth (depthOfList items)

/-- Whether all that the form can take is the empty text. -/
def takesNothing : Form → Bool
  | .empty => true
  | .flags _ => true
  | .anchor _ => true
  | .repetition body _ most => most == some 0 || body.takesNothing
  | .group _ body => body.takesNothing
  | .alternation branches => allTakeNothing branches
  | .concat items => allTakeNothing items
  | _ => false

def allTakeNothing : List Form → Bool
  | [] => true
  | item :: items => item.takesNothing && allTakeNothing items

end

end Form

end Trackplan.Regex
