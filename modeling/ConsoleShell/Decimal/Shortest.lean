import ConsoleShell.Decimal.Double

/-!
# The shortest decimal of a double

`Magnitude.shortest` gives the fewest significant digits whose decimal lies in the interval that rounds to the
magnitude, and of those decimals the nearest. `Double.text` writes them: positionally from `10 ^ -5` up to
`10 ^ 16`, always with a point, and with an exponent otherwise.
-/

namespace ConsoleShell.Decimal

namespace Magnitude

/-- In quarters of a unit in the last place: the lower end of the interval that rounds to the magnitude, the
value, the upper end. The gap below a power of two is half as wide. -/
def quarters (x : Magnitude) : Nat × Nat × Nat :=
  let low := if x.mantissa = Nat.pow 2 52 ∧ -1074 < x.exponent then 4 * x.mantissa - 1 else 4 * x.mantissa - 2
  (low, 4 * x.mantissa, 4 * x.mantissa + 2)

/-- Does `point` lie in the interval that rounds to the magnitude, both counted in the same unit? The ends belong
to it when the mantissa is even. -/
def covers (x : Magnitude) (low high point : Nat) : Bool :=
  if x.mantissa % 2 = 0 then low ≤ point && point ≤ high else low < point && point < high

/-- The exponent of the leading decimal digit of `num / den`, found from an estimate that is at most one too
large. -/
def leadingPlace (num den : Nat) : Int :=
  let guess : Int := ((num.log2 : Int) - den.log2 + 1) * 30103 / 100000 + 1
  let reaches (k : Int) : Bool :=
    if 0 ≤ k then den * Nat.pow 10 k.toNat ≤ num else den ≤ num * Nat.pow 10 (-k).toNat
  if reaches guess then guess
  else if reaches (guess - 1) then guess - 1
  else if reaches (guess - 2) then guess - 2
  else guess - 3

/-- A decimal `digits · 10 ^ place` next to the magnitude on the grid of `count` digits that rounds to it; the
nearer one if both neighbours do, the even one of two equally near. -/
def onGrid? (x : Magnitude) (leading : Int) (count : Nat) : Option (Nat × Int) :=
  let place := leading - count + 1
  let unit : Magnitude := ⟨1, x.exponent - 2⟩
  let scale := unit.ratio
  -- one quarter is `num / den` grid steps
  let num := if 0 ≤ place then scale.1 else scale.1 * Nat.pow 10 (-place).toNat
  let den := if 0 ≤ place then scale.2 * Nat.pow 10 place.toNat else scale.2
  let (low, mid, high) := x.quarters
  let below := mid * num / den
  let hit (k : Nat) : Bool := x.covers (low * num) (high * num) (k * den)
  let nearest := roundDiv (mid * num) den
  if hit nearest then some (nearest, place)
  else if hit below then some (below, place)
  else if hit (below + 1) then some (below + 1, place)
  else none

/-- The first grid of at least `count` digits that has a decimal for the magnitude, out of `more` further
ones. -/
def firstGrid (x : Magnitude) (leading : Int) (count : Nat) : Nat → Nat × Int
  | 0 => (onGrid? x leading count).getD (0, 0)
  | more + 1 => (onGrid? x leading count).getD (firstGrid x leading (count + 1) more)

/-- The shortest decimal `digits · 10 ^ place` that rounds to the magnitude; 17 digits always do. -/
def shortest (x : Magnitude) : Nat × Int :=
  if x.mantissa = 0 then (0, 0)
  else firstGrid x (leadingPlace x.ratio.1 x.ratio.2) 1 16

end Magnitude

def digitChars (n : Nat) : List Char := Nat.toDigits 10 n

/-- Digits without the zeros at their end, together with the number of zeros taken away. -/
def stripZeros (cs : List Char) : List Char × Nat :=
  let kept := (cs.reverse.dropWhile (· = '0')).reverse
  (kept, cs.length - kept.length)

/-- Where the positional notation of doubles ends, by the exponent of the leading digit. -/
def positionalFrom : Int := -5

def positionalTo : Int := 15

/-- Writes `0.d₁d₂… · 10 ^ (leading + 1)`. -/
def writeDigits (digits : List Char) (leading : Int) : List Char :=
  if positionalFrom ≤ leading ∧ leading ≤ positionalTo then
    if leading < 0 then
      '0' :: '.' :: (List.replicate (-leading - 1).toNat '0' ++ digits)
    else
      let before := leading.toNat + 1
      let whole := digits.take before ++ List.replicate (before - digits.length) '0'
      let fraction := digits.drop before
      whole ++ '.' :: (if fraction = [] then ['0'] else fraction)
  else
    let mark := if leading < 0 then ['e', '-'] else ['e', '+']
    let point := match digits with
      | d :: e :: r => d :: '.' :: e :: r
      | ds => ds
    point ++ mark ++ digitChars leading.natAbs

def Double.text (x : Double) : List Char :=
  let sign := if x.negative then ['-'] else []
  if x.magnitude.mantissa = 0 then sign ++ ['0', '.', '0']
  else
    let (n, place) := x.magnitude.shortest
    let (digits, zeros) := stripZeros (digitChars n)
    sign ++ writeDigits digits (place + zeros + digits.length - 1)

end ConsoleShell.Decimal
