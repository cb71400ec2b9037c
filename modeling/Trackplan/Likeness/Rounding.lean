/-! Binary fractions of 53 significant digits. Each operation is exact and then rounded to the
nearest such fraction, a tie to the even one. -/
namespace Trackplan.Likeness

/-- The fraction `numerator / 2 ^ scale`. -/
structure Fraction where
  numerator : Nat
  scale : Nat
  deriving DecidableEq, Repr

/-- The whole number nearest to a quotient; a tie goes to the even one. -/
def nearestEven (num den : Nat) : Nat :=
  let q := num / den
  let r := num % den
  if 2 * r < den ∨ 2 * r = den ∧ q % 2 = 0 then q else q + 1

/-- The scale at which a quotient has 53 digits before the point. One estimate from the lengths
of the numbers is right or one too great. -/
def scaleFor (num den : Nat) : Nat :=
  let estimate := 53 + den.log2 - num.log2
  if num <<< estimate < den <<< 53 then estimate else estimate - 1

namespace Fraction

def ofQuotient (num den : Nat) : Fraction :=
  if num = 0 then ⟨0, 0⟩
  else
    let scale := scaleFor num den
    ⟨nearestEven (num <<< scale) den, scale⟩

/-- One less the fraction, which is at most one. -/
def complement (f : Fraction) : Fraction :=
  ofQuotient ((1 <<< f.scale) - f.numerator) (1 <<< f.scale)

def scaled (factor : Nat) (f : Fraction) : Fraction :=
  ofQuotient (f.numerator * factor) (1 <<< f.scale)

/-- The nearest whole number; a half goes up. -/
def round (f : Fraction) : Nat := (2 * f.numerator + (1 <<< f.scale)) / (1 <<< (f.scale + 1))

end Fraction

end Trackplan.Likeness
