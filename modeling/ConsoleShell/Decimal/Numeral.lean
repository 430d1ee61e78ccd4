import ConsoleShell.Decimal.Double

/-!
# Decimal numerals

A numeral is a sign, the digits before and after the point and an optional exponent. It denotes an integer when
it has neither fraction nor exponent and fits 64 bits, and a double otherwise.

A double is found from the leading digits that fit 64 bits: they are rounded to a double, which is then
multiplied or divided by the power of ten that is due. This is exact for short numerals and may miss the nearest
double by a unit or two in the last place for long ones.
-/

namespace ConsoleShell.Decimal

structure Numeral where
  negative : Bool
  whole : List Nat
  fraction : List Nat
  exponent : Option Int
  deriving DecidableEq

/-- An integer within 64 bits, or a double. -/
inductive Number
  | int (n : Int)
  | double (x : Double)
  deriving DecidableEq

/-- The largest significand: 64 bits. -/
def significandLimit : Nat := UInt64.size - 1

/-- Appends digits to a significand as long as it stays within the limit; the second part counts the digits left
over. -/
def appendDigits (significand : Nat) : List Nat → Nat × Nat
  | [] => (significand, 0)
  | d :: ds =>
    if significand * 10 + d ≤ significandLimit then appendDigits (significand * 10 + d) ds
    else (significand, ds.length + 1)

namespace Magnitude

/-- The double nearest to a power of ten. -/
def powerOfTen (n : Nat) : Option Magnitude := ofRatio (Nat.pow 10 n) 1

/-- The largest power of ten that a double reaches. -/
def tenLimit : Nat := 308

/-- Divides by `10 ^ 308` so many times, or until nothing is left. -/
def lowered : Nat → Magnitude → Option Magnitude
  | 0, x => some x
  | n + 1, x =>
    if x.mantissa = 0 then some x
    else (powerOfTen tenLimit).bind fun p => (x.div p).bind (lowered n)

/-- Scales by `10 ^ exponent`, at most 308 decimal places at a time. None beyond the largest double. -/
def scaleByTen (x : Magnitude) (exponent : Int) : Option Magnitude :=
  let places := exponent.natAbs
  if 0 ≤ exponent then
    if places ≤ tenLimit then (powerOfTen places).bind x.mul
    else if x.mantissa = 0 then some x
    else none
  else
    (x.lowered ((places - 1) / tenLimit)).bind fun y =>
      (powerOfTen ((places - 1) % tenLimit + 1)).bind y.div

end Magnitude

namespace Numeral

/-- The double of a numeral; none beyond the largest double. -/
def toDouble (n : Numeral) : Option Double :=
  let whole := appendDigits 0 n.whole
  let all := appendDigits whole.1 n.fraction
  let places : Int := whole.2 - (n.fraction.length - all.2 : Nat)
  ((Magnitude.ofRatio all.1 1).bind (·.scaleByTen (places + n.exponent.getD 0))).map (⟨n.negative, ·⟩)

/-- The number that a numeral denotes: an integer without a fraction or an exponent stays one if it fits 64 bits,
signed or unsigned. Minus zero is a double. -/
def value (n : Numeral) : Option Number :=
  let whole := appendDigits 0 n.whole
  if n.fraction = [] ∧ n.exponent = none ∧ whole.2 = 0 ∧
      (n.negative = true → 1 ≤ whole.1 ∧ whole.1 ≤ Nat.pow 2 63) then
    some (.int (if n.negative then -whole.1 else whole.1))
  else n.toDouble.map .double

end Numeral

end ConsoleShell.Decimal
