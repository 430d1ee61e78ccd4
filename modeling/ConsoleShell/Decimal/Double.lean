/-!
# Double precision numbers

A finite double is a sign and a magnitude `mantissa · 2 ^ exponent` with `mantissa < 2 ^ 53`, the exponent at
least `-1074`, and the mantissa at least `2 ^ 52` unless the exponent is `-1074`. `Magnitude.ofRatio` rounds a
quotient of natural numbers to the nearest magnitude, a half to the even mantissa; products and quotients of
magnitudes are the rounded exact ones.
-/

namespace ConsoleShell.Decimal

/-- The value `mantissa · 2 ^ exponent`. -/
structure Magnitude where
  mantissa : Nat
  exponent : Int
  deriving DecidableEq

structure Double where
  negative : Bool
  magnitude : Magnitude
  deriving DecidableEq

/-- The quotient rounded to a natural number, a half to the even neighbour. -/
def roundDiv (num den : Nat) : Nat :=
  let q := num / den
  let r := num % den
  if 2 * r < den || (2 * r = den && q % 2 = 0) then q else q + 1

namespace Magnitude

def zero : Magnitude := ⟨0, -1074⟩

/-- The value as a numerator over a denominator. -/
def ratio (x : Magnitude) : Nat × Nat :=
  if 0 ≤ x.exponent then (x.mantissa * Nat.pow 2 x.exponent.toNat, 1)
  else (x.mantissa, Nat.pow 2 (-x.exponent).toNat)

/-- The numerator and denominator of `num / den` counted in units of `2 ^ exponent`. -/
def inUnits (num den : Nat) (exponent : Int) : Nat × Nat :=
  if 0 ≤ exponent then (num, den * Nat.pow 2 exponent.toNat) else (num * Nat.pow 2 (-exponent).toNat, den)

/-- The exponent at which the mantissa of `num / den` has 53 binary digits, but no less than `-1074`. -/
def unitExponent (num den : Nat) : Int :=
  let low := max ((num.log2 : Int) - den.log2 - 53) (-1074)
  let scaled := inUnits num den low
  if scaled.1 / scaled.2 < Nat.pow 2 53 then low else low + 1

/-- The nearest magnitude to `num / den`; none above the largest double. -/
def ofRatio (num den : Nat) : Option Magnitude :=
  if num = 0 then some zero else
  let exponent := unitExponent num den
  let scaled := inUnits num den exponent
  let mantissa := roundDiv scaled.1 scaled.2
  let x : Magnitude := if mantissa = Nat.pow 2 53 then ⟨Nat.pow 2 52, exponent + 1⟩ else ⟨mantissa, exponent⟩
  if 971 < x.exponent then none else some x

def mul (x y : Magnitude) : Option Magnitude :=
  ofRatio (x.ratio.1 * y.ratio.1) (x.ratio.2 * y.ratio.2)

def div (x y : Magnitude) : Option Magnitude :=
  ofRatio (x.ratio.1 * y.ratio.2) (x.ratio.2 * y.ratio.1)

end Magnitude

end ConsoleShell.Decimal
