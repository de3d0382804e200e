/-! Binary64 numbers as their 64 bits, with the exact rational arithmetic that
rounds to the nearest number, ties to even. Every operation is defined on the
integers of the encoding, so equal bits are equal numbers and nothing depends on
a machine's floating point unit. -/
namespace SqliteBridge

structure Binary64 where
  bits : UInt64
deriving DecidableEq, Inhabited

namespace Binary64

def signPlace : Nat := 0x8000000000000000

/-- The place of the hidden bit of a normal number, above the 52 bits of its fraction. -/
def hiddenPlace : Nat := 0x10000000000000

def infinityBits : Nat := 0x7ff0000000000000

/-- The bits without the sign. -/
def magnitudeBits (x : Binary64) : Nat := x.bits.toNat % signPlace

def isNegative (x : Binary64) : Bool := decide (signPlace ≤ x.bits.toNat)

def isNaN (x : Binary64) : Bool := decide (infinityBits < x.magnitudeBits)

def isInfinite (x : Binary64) : Bool := x.magnitudeBits == infinityBits

def isFinite (x : Binary64) : Bool := decide (x.magnitudeBits < infinityBits)

def isZero (x : Binary64) : Bool := x.magnitudeBits == 0

/-- The integer `m` of the magnitude `m * 2 ^ scale` of a finite number. -/
def significand (x : Binary64) : Nat :=
  if x.magnitudeBits < hiddenPlace then x.magnitudeBits
  else x.magnitudeBits % hiddenPlace + hiddenPlace

/-- The binary exponent of the unit in the last place of a finite number. -/
def scale (x : Binary64) : Int := (max (x.magnitudeBits / hiddenPlace) 1 : Nat) - 1075

/-- The magnitude of a finite number as a fraction. -/
def fraction (x : Binary64) : Nat × Nat :=
  if 0 ≤ x.scale then (x.significand * Nat.pow 2 x.scale.toNat, 1)
  else (x.significand, Nat.pow 2 (-x.scale).toNat)

def withSign (negative : Bool) (magnitude : Nat) : Binary64 :=
  ⟨.ofNat (if negative then magnitude + signPlace else magnitude)⟩

def zero (negative : Bool) : Binary64 := withSign negative 0

def infinity (negative : Bool) : Binary64 := withSign negative infinityBits

def nan : Binary64 := ⟨0x7ff8000000000000⟩

def negate (x : Binary64) : Binary64 := withSign (!x.isNegative) x.magnitudeBits

def magnitude (x : Binary64) : Binary64 := withSign false x.magnitudeBits

/-- The quotient rounded to an integer, a half to the even neighbour. -/
def roundQuotient (num den : Nat) : Nat :=
  let low := num / den
  let rest := num % den
  if 2 * rest < den then low
  else if den < 2 * rest then low + 1
  else low + low % 2

/-- The exponent of the unit in the last place for a positive fraction: its
quotient by that unit has 53 binary digits, or fewer at the bottom of the range. -/
def unitExponent (num den : Nat) : Int :=
  let guess : Int := (Nat.log2 num : Int) - (Nat.log2 den : Int)
  let small :=
    if 0 ≤ guess then num < den * Nat.pow 2 guess.toNat
    else num * Nat.pow 2 (-guess).toNat < den
  let log := if small then guess - 1 else guess
  max (log - 52) (-1074)

/-- The number nearest to `num / den`. A magnitude past the largest finite number
becomes infinite. -/
def ofFraction (negative : Bool) (num den : Nat) : Binary64 :=
  if num = 0 then zero negative
  else
    let unit := unitExponent num den
    let digits :=
      if 0 ≤ unit then roundQuotient num (den * Nat.pow 2 unit.toNat)
      else roundQuotient (num * Nat.pow 2 (-unit).toNat) den
    -- A subnormal has exponent field 0; the hidden bit of a normal number adds one to it.
    let bits := (unit + 1074).toNat * hiddenPlace + digits
    withSign negative (min bits infinityBits)

def ofInt (n : Int) : Binary64 := ofFraction (decide (n < 0)) n.natAbs 1

/-- The number nearest to `digits * 10 ^ exponent`. -/
def ofDecimal (negative : Bool) (digits : Nat) (exponent : Int) : Binary64 :=
  if 0 ≤ exponent then ofFraction negative (digits * Nat.pow 10 exponent.toNat) 1
  else ofFraction negative digits (Nat.pow 10 (-exponent).toNat)

/-- The product of finite numbers. -/
def mul (x y : Binary64) : Binary64 :=
  ofFraction (x.isNegative != y.isNegative) (x.fraction.1 * y.fraction.1)
    (x.fraction.2 * y.fraction.2)

/-- The quotient of finite numbers by a number that is not zero. -/
def div (x y : Binary64) : Binary64 :=
  ofFraction (x.isNegative != y.isNegative) (x.fraction.1 * y.fraction.2)
    (x.fraction.2 * y.fraction.1)

/-- The numerator of a finite number over the denominator of `fraction`. -/
def signedNumerator (x : Binary64) : Int :=
  if x.isNegative then -(x.fraction.1 : Int) else x.fraction.1

/-- The sum; an exact zero is positive unless both operands are negative. -/
def add (x y : Binary64) : Binary64 :=
  if x.isNaN || y.isNaN then nan
  else if x.isInfinite then (if y.isInfinite && x.isNegative != y.isNegative then nan else x)
  else if y.isInfinite then y
  else
    let sum := x.signedNumerator * y.fraction.2 + y.signedNumerator * x.fraction.2
    if sum = 0 then zero (x.isNegative && y.isNegative)
    else ofFraction (decide (sum < 0)) sum.natAbs (x.fraction.2 * y.fraction.2)

/-- The integer part, toward zero, of a finite number. -/
def truncate (x : Binary64) : Int :=
  let whole : Int := (x.fraction.1 / x.fraction.2 : Nat)
  if x.isNegative then -whole else whole

/-- The integer part clamped to 64 bits; what is not a number has none and gives 0. -/
def toInt64 (x : Binary64) : Int64 :=
  if x.isNaN then 0
  else if x.isInfinite then (if x.isNegative then Int64.minValue else Int64.maxValue)
  else
    let whole := x.truncate
    if whole < Int64.minValue.toInt then Int64.minValue
    else if Int64.maxValue.toInt < whole then Int64.maxValue
    else Int64.ofInt whole

/-- The integer that a finite number equals, if it is one and fits in 64 bits. -/
def exactInt64? (x : Binary64) : Option Int64 :=
  if x.isFinite && x.fraction.1 % x.fraction.2 == 0
      && decide (Int64.minValue.toInt ≤ x.truncate)
      && decide (x.truncate ≤ Int64.maxValue.toInt) then
    some (.ofInt x.truncate)
  else
    none

/-- The order of numbers that are not NaN, decided by cross products. -/
def compare (x y : Binary64) : Ordering :=
  if x.isInfinite || y.isInfinite then
    let rank (z : Binary64) : Int := if z.isInfinite then (if z.isNegative then -1 else 1) else 0
    Ord.compare (rank x) (rank y)
  else
    Ord.compare (x.signedNumerator * y.fraction.2) (y.signedNumerator * x.fraction.2)

end Binary64

end SqliteBridge
