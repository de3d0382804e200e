import SqliteBridge.Number.Binary64

/-! Decimal digits of binary64 numbers: the fewest digits that read back as the
same number, and a fixed count of digits rounded from the exact value. -/
namespace SqliteBridge

/-- A positive decimal `0.d₁d₂… * 10 ^ point` given by its digits. -/
structure Decimal where
  digits : List Char
  point : Int
deriving DecidableEq

namespace Decimal

def digitText (n : Nat) : List Char := Nat.toDigits 10 n

/-- The exponent of the first digit of a positive fraction. -/
def leadingExponent (num den : Nat) : Int :=
  let reaches (e : Int) : Bool :=
    if 0 ≤ e then decide (den * Nat.pow 10 e.toNat ≤ num)
    else decide (den ≤ num * Nat.pow 10 (-e).toNat)
  let guess := ((Nat.log2 num : Int) - (Nat.log2 den : Int) - 1) * 30103 / 100000 - 1
  let step (e : Int) : Int := if reaches (e + 1) then e + 1 else e
  step (step (step guess))

/-- The fraction divided by `10 ^ exponent`. -/
def scaleDown (num den : Nat) (exponent : Int) : Nat × Nat :=
  if 0 ≤ exponent then (num, den * Nat.pow 10 exponent.toNat)
  else (num * Nat.pow 10 (-exponent).toNat, den)

/-- The decimal `n * 10 ^ exponent` without the zeros at its end. -/
def ofScaled (n : Nat) (exponent : Int) : Decimal :=
  let text := digitText n
  ⟨(text.reverse.dropWhile (· == '0')).reverse, text.length + exponent⟩

/-- Four times the magnitude of a number, and of the ends of the interval of reals
that round to it, over a common denominator. -/
structure Interval where
  low : Nat
  value : Nat
  high : Nat
  den : Nat
  closed : Bool

def interval (x : Binary64) : Interval :=
  let m := x.significand
  -- Below a power of two the neighbour is at half the distance.
  let gap := if m = Binary64.hiddenPlace ∧ -1074 < x.scale then 1 else 2
  let up := Nat.pow 2 x.scale.toNat
  ⟨(4 * m - gap) * up, 4 * m * up, (4 * m + 2) * up, 4 * Nat.pow 2 (-x.scale).toNat, m % 2 == 0⟩

/-- Whether `n * 10 ^ exponent` rounds to the number of the interval. -/
def Interval.holds (i : Interval) (n : Nat) (exponent : Int) : Bool :=
  let (point, den) := if 0 ≤ exponent then (n * Nat.pow 10 exponent.toNat * i.den, 1)
    else (n * i.den, Nat.pow 10 (-exponent).toNat)
  if i.closed then decide (i.low * den ≤ point) && decide (point ≤ i.high * den)
  else decide (i.low * den < point) && decide (point < i.high * den)

/-- The point of the grid of `count` digits that rounds to the number, the nearer
of two and the even one of a tie. -/
def onGrid? (i : Interval) (leading : Int) (count : Nat) : Option Decimal :=
  let exponent := leading - count + 1
  let (num, den) := scaleDown i.value i.den exponent
  let floor := num / den
  let nearest := Binary64.roundQuotient num den
  let other := if nearest = floor then floor + 1 else floor
  if i.holds nearest exponent then some (ofScaled nearest exponent)
  else if i.holds other exponent then some (ofScaled other exponent)
  else none

/-- The fewest digits that read back as the magnitude of a finite number that is
not zero. Seventeen digits always do. -/
def shortest (x : Binary64) : Decimal :=
  let i := interval x
  let leading := leadingExponent i.value i.den
  ((List.range 17).findSome? fun k => onGrid? i leading (k + 1)).getD ⟨['0'], 1⟩

/-- The magnitude of a finite number that is not zero, rounded to `count`
significant digits with a half going up. -/
def rounded (x : Binary64) (count : Nat) : Decimal :=
  let (num, den) := x.fraction
  let exponent := leadingExponent num den - count + 1
  let (num, den) := scaleDown num den exponent
  ofScaled ((2 * num + den) / (2 * den)) exponent

end Decimal

end SqliteBridge
