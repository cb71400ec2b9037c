/-! Causes for which a text is no regular expression. -/
namespace Trackplan.Regex

inductive Fault
  | endsEarly
  | unclosedGroup
  | unopenedGroup
  | unclosedSet
  | badGroupName
  | repeatedGroupName
  | badFlags
  | nothingToRepeat
  | badCount
  | badEscape
  | badRange
  | notInSet
  | unknownSet
  | lookaround
  | backreference
  | notText
  | tooDeep
  | tooLarge
  deriving DecidableEq, Repr

namespace Fault

/-- Levels of nesting that are accepted. -/
def depthLimit : Nat := 250

/-- Bytes that a compiled expression may take. -/
def sizeLimit : Nat := 10485760

def reason : Fault → String
  | .endsEarly => "the expression ends too early"
  | .unclosedGroup => "unclosed group"
  | .unopenedGroup => "unopened group"
  | .unclosedSet => "unclosed character class"
  | .badGroupName => "invalid capture group name"
  | .repeatedGroupName => "duplicate capture group name"
  | .badFlags => "invalid flags"
  | .nothingToRepeat => "repetition operator missing expression"
  | .badCount => "invalid repetition count"
  | .badEscape => "unrecognized escape sequence"
  | .badRange => "invalid character class range"
  | .notInSet => "invalid escape sequence found in character class"
  | .unknownSet => "Unicode property not found"
  | .lookaround => "look-around, including look-ahead and look-behind, is not supported"
  | .backreference => "backreferences are not supported"
  | .notText => "pattern can match invalid UTF-8"
  | .tooDeep => "exceeded the maximum number of nested parentheses/brackets (" ++
      toString depthLimit ++ ")"
  | .tooLarge => "Compiled regex exceeds size limit of " ++ toString sizeLimit ++ " bytes."

/-- An expression that is too large is well written, so it is the one fault outside reading. The
message does not show the expression or the place in it. -/
def message : Fault → String
  | .tooLarge => reason .tooLarge
  | fault => "regex parse error:\nerror: " ++ fault.reason

end Fault

end Trackplan.Regex
