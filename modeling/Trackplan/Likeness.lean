import Trackplan.Likeness.Rounding
import Trackplan.Likeness.Subsequence
import Trackplan.Likeness.Suggestion

/-! A measure of likeness: what two texts have in common, as a part of both. Suggestions take any
measure; this is the one that the library brings. -/
namespace Trackplan.Likeness

/-- How much of two texts is common to both, in thousandths of the whole. Each step of the
quotient is rounded on its own. -/
def permille (a b : List Char) : Nat :=
  let total := a.length + b.length
  let distance := total - 2 * commonLength a b
  (((Fraction.ofQuotient distance total).complement).scaled 1000).round

/-- The measure in the form that rankings take. -/
def measure (a b : List Char) : Int := permille a b

def suggest {α : Type} (text : α → String) (names : List α) (needle : String) (limit : Nat) :
    List α :=
  suggestBy measure text names needle limit

end Trackplan.Likeness
