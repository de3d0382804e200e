import SqliteBridge.Sql.Syntax

/-! Sums over rows. Integers are added exactly as long as their sum fits in 64 bits;
from then on the sum is a real, beside a correction that collects what each addition
loses to rounding. Nulls add nothing. -/
namespace SqliteBridge.Sql

inductive Summation where
  /-- No value yet. -/
  | nothing
  | exact (total : Int64)
  /-- A rounded sum. `overflowed` says that there were integers only, and that their sum
  did not fit. -/
  | rounded (total correction : Binary64) (overflowed : Bool)

namespace Summation

/-- From here on a 64-bit integer is split in two, each with an exact real. -/
def splitThreshold : Int := Binary64.hiddenPlace

/-- The integer without its low part, which is less than 16384 and has its sign. -/
def split (n : Int) : Int × Int :=
  if n ≤ -splitThreshold ∨ splitThreshold ≤ n then (n - n.tmod 16384, n.tmod 16384) else (n, 0)

/-- Adds a real. The correction takes up what is lost of the smaller operand. -/
def addReal (total correction x : Binary64) : Binary64 × Binary64 :=
  let next := total.add x
  let lost :=
    if x.magnitudeBits < total.magnitudeBits then (total.add next.negate).add x
    else (x.add next.negate).add total
  (next, correction.add lost)

def addInteger (total correction : Binary64) (n : Int) : Binary64 × Binary64 :=
  let (high, low) := split n
  let (total, correction) := addReal total correction (.ofInt high)
  if low = 0 then (total, correction) else addReal total correction (.ofInt low)

/-- Adds a value to a sum that is rounded. A value that is no integer makes good an
overflow. -/
def addRounded (total correction : Binary64) (overflowed : Bool) (d : Datum) : Summation :=
  match d with
  | .integer n =>
    let (total, correction) := addInteger total correction n.toInt
    rounded total correction overflowed
  | d =>
    let (total, correction) := addReal total correction d.toReal
    rounded total correction false

def add (sum : Summation) (d : Datum) : Summation :=
  match sum, d.numeric with
  | sum, .null => sum
  | nothing, .integer n => exact n
  | nothing, d => addRounded (.zero false) (.zero false) false d
  | exact m, .integer n =>
    let total := m.toInt + n.toInt
    if (clampInt64 total).toInt = total then exact (.ofInt total)
    else
      let (high, low) := split m.toInt
      addRounded (.ofInt high) (.ofInt low) true (.integer n)
  | exact m, d =>
    let (high, low) := split m.toInt
    addRounded (.ofInt high) (.ofInt low) false d
  | rounded total correction overflowed, d => addRounded total correction overflowed d

/-- The value of a sum. A correction that is not finite is left out, and what is not a
number is null. -/
def value : Summation → Except Fault Datum
  | nothing => .ok .null
  | exact total => .ok (.integer total)
  | rounded total correction overflowed =>
    if overflowed then .error (.error "integer overflow")
    else
      let sum := if correction.isFinite then total.add correction else total
      .ok (if sum.isNaN then .null else .real sum)

end Summation

end SqliteBridge.Sql
