import Trackplan.Regex.Meaning
import Trackplan.Regex.Reading
import Trackplan.Regex.Size

/-! Regular expressions: from a text to a pattern. They are this library's own and stand in, in the
outermost layer only, for whatever engine a program brings. -/
namespace Trackplan.Regex

/-- The pattern that a text describes. With `ignoreCase` the text is read as if it started with
the flag for that. Whether the pattern is too large is an estimate. -/
def Pattern.ofText (ignoreCase : Bool) (text : String) : Except Fault Pattern := do
  let form ← Form.ofText text.toList
  let (pattern, _) ← form.meaning { ignoreCase }
  if Fault.sizeLimit < form.size then .error .tooLarge else .ok pattern

end Trackplan.Regex
