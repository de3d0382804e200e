import SqliteBridge.Number.Decimal

/-! The two written forms of binary64 numbers: the JSON form, with the fewest
digits that read back, and the SQL form, with at most fifteen digits. Both keep a
fraction in positional notation, so that a whole number still reads as a number
with a fraction. -/
namespace SqliteBridge.Binary64

/-- Which numbers are written positionally, and how an exponent looks. -/
structure Layout where
  /-- The least decimal exponent written positionally. -/
  least : Int
  /-- The largest decimal exponent written positionally. -/
  largest : Int
  /-- Whether a lone digit before an exponent is followed by `.0`. -/
  pointBeforeExponent : Bool
  /-- The least number of digits of an exponent. -/
  exponentDigits : Nat

def Layout.json : Layout := ⟨-5, 15, false, 1⟩

def Layout.sql : Layout := ⟨-4, 14, true, 2⟩

def zeros (n : Nat) : List Char := List.replicate n '0'

/-- A whole part and a fraction, which is never empty. -/
def positional (d : Decimal) : List Char :=
  if d.point ≤ 0 then '0' :: '.' :: (zeros (-d.point).toNat ++ d.digits)
  else
    let whole := d.point.toNat
    if d.digits.length ≤ whole then d.digits ++ zeros (whole - d.digits.length) ++ ['.', '0']
    else d.digits.take whole ++ '.' :: d.digits.drop whole

def exponential (layout : Layout) (d : Decimal) : List Char :=
  let exponent := d.point - 1
  let digits := Decimal.digitText exponent.natAbs
  let mantissa := match d.digits with
    | [] => ['0']
    | [first] => if layout.pointBeforeExponent then [first, '.', '0'] else [first]
    | first :: rest => first :: '.' :: rest
  mantissa ++ 'e' :: (if exponent < 0 then '-' else '+')
    :: (zeros (layout.exponentDigits - digits.length) ++ digits)

def Layout.write (layout : Layout) (d : Decimal) : List Char :=
  if layout.least ≤ d.point - 1 ∧ d.point - 1 ≤ layout.largest then positional d
  else exponential layout d

def signed (x : Binary64) (text : List Char) : List Char :=
  if x.isNegative then '-' :: text else text

/-- The JSON form of a finite number. -/
def jsonText (x : Binary64) : List Char :=
  x.signed (if x.isZero then ['0', '.', '0'] else Layout.json.write (Decimal.shortest x))

/-- The SQL form. The sign of zero is not written. -/
def sqlText (x : Binary64) : List Char :=
  if x.isNaN then []
  else if x.isInfinite then x.signed "Inf".toList
  else if x.isZero then ['0', '.', '0']
  else x.signed (Layout.sql.write (Decimal.rounded x 15))

end SqliteBridge.Binary64
