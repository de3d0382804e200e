import SqliteBridge.Number.Notation
import SqliteBridge.Text.Utf8
import SqliteBridge.Value

/-! Stored values. Text is kept as its bytes, since a cast can make text of bytes
that encode none. The conversions between the storage classes are those of SQL: a
text counts as the number that its start spells. -/
namespace SqliteBridge.Sql

inductive Datum where
  | null
  | integer (n : Int64)
  | real (x : Binary64)
  | text (bytes : ByteArray)
  | blob (bytes : ByteArray)
deriving DecidableEq

/-- What a column prefers to store. -/
inductive Affinity where
  | none
  | text
  | numeric
  | integer
  | real
deriving DecidableEq, Inhabited

namespace Affinity

def isNumeric : Affinity → Bool
  | numeric => true
  | integer => true
  | real => true
  | _ => false

end Affinity

/-! ### Numbers at the start of a text -/

def isSpace (c : Char) : Bool := c == ' ' || (decide (9 ≤ c.toNat) && decide (c.toNat ≤ 13))

/-- The bytes of a text, each as a character. -/
def byteChars (bytes : ByteArray) : List Char :=
  bytes.data.toList.map fun byte => Char.ofNat byte.toNat

/-- The sign and what follows it. -/
def splitSign (text : List Char) : Bool × List Char :=
  match text with
  | '-' :: rest => (true, rest)
  | '+' :: rest => (false, rest)
  | _ => (false, text)

def digitsValue (digits : List Char) : Nat :=
  digits.foldl (fun n c => n * 10 + (c.toNat - '0'.toNat)) 0

def clampInt64 (n : Int) : Int64 :=
  if n < Int64.minValue.toInt then Int64.minValue
  else if Int64.maxValue.toInt < n then Int64.maxValue
  else .ofInt n

/-- A number at the start of a text: its sign, digits, decimal exponent, whether it
is spelled as an integer, and what follows it. -/
structure LeadingNumber where
  isNegative : Bool
  digits : Nat
  exponent : Int
  isInteger : Bool
  hasDigits : Bool
  rest : List Char

/-- The exponent at the start of a text; without a digit there is none. -/
def leadingExponentPart (text : List Char) : Option (Int × List Char) :=
  match text with
  | e :: rest =>
    if e = 'e' ∨ e = 'E' then
      let (isNegative, rest) := splitSign rest
      let digits := rest.takeWhile Char.isDigit
      if digits.isEmpty then none
      else
        let value : Int := digitsValue digits
        some (if isNegative then -value else value, rest.dropWhile Char.isDigit)
    else none
  | [] => none

def leadingNumber (text : List Char) : LeadingNumber :=
  let (isNegative, text) := splitSign (text.dropWhile isSpace)
  let whole := text.takeWhile Char.isDigit
  let afterWhole := text.dropWhile Char.isDigit
  let (fraction, afterFraction, hasPoint) := match afterWhole with
    | '.' :: rest => (rest.takeWhile Char.isDigit, rest.dropWhile Char.isDigit, true)
    | _ => ([], afterWhole, false)
  let hasDigits := !whole.isEmpty || !fraction.isEmpty
  let (exponent, rest, hasExponent) :=
    match (if hasDigits then leadingExponentPart afterFraction else none) with
    | some (exponent, rest) => (exponent, rest, true)
    | none => (0, afterFraction, false)
  ⟨isNegative, digitsValue (whole ++ fraction), exponent - fraction.length,
    !hasPoint && !hasExponent, hasDigits, rest⟩

/-- The nearest binary64 number. A digit string far outside the range is not
multiplied out. -/
def LeadingNumber.toReal (number : LeadingNumber) : Binary64 :=
  let size : Int := (Nat.toDigits 10 number.digits).length + number.exponent
  if number.digits = 0 ∨ size < -400 then .zero number.isNegative
  else if 400 < size then .infinity number.isNegative
  else .ofDecimal number.isNegative number.digits number.exponent

def LeadingNumber.signedDigits (number : LeadingNumber) : Int :=
  if number.isNegative then -(number.digits : Int) else number.digits

/-- The integer at the start of a text, clamped to 64 bits. -/
def leadingInteger (text : List Char) : Int64 :=
  let (isNegative, text) := splitSign (text.dropWhile isSpace)
  let value : Int := digitsValue (text.takeWhile Char.isDigit)
  clampInt64 (if isNegative then -value else value)

/-- The number that a whole text spells, with blanks around it allowed. -/
def wholeNumber? (text : List Char) : Option LeadingNumber :=
  let number := leadingNumber text
  if number.hasDigits && number.rest.all isSpace then some number else none

namespace Datum

/-- A float as it is stored. A NaN has no place there. -/
def ofDouble (x : Binary64) : Datum := if x.isNaN then null else real x

def columnType : Datum → ColumnType
  | null => .null
  | integer _ => .integer
  | real _ => .float
  | text _ => .text
  | blob _ => .blob

def isNull : Datum → Bool
  | null => true
  | _ => false

/-- The bytes of the value as text or as a blob; null has none. -/
def bytes : Datum → ByteArray
  | null => .empty
  | integer n => (toString n.toInt).toUTF8
  | real x => (String.ofList x.sqlText).toUTF8
  | text bytes => bytes
  | blob bytes => bytes

def toInt64 : Datum → Int64
  | null => 0
  | integer n => n
  | real x => x.toInt64
  | text bytes => leadingInteger (byteChars bytes)
  | blob bytes => leadingInteger (byteChars bytes)

/-- The low 32 bits of the integer. -/
def toInt32 (d : Datum) : Int32 := d.toInt64.toInt32

def toReal : Datum → Binary64
  | null => .zero false
  | integer n => .ofInt n.toInt
  | real x => x
  | text bytes => (leadingNumber (byteChars bytes)).toReal
  | blob bytes => (leadingNumber (byteChars bytes)).toReal

/-- The bytes of the value; null and the empty blob have none. -/
def toBytes? (d : Datum) : Option ByteArray := if d.bytes.size = 0 then none else some d.bytes

/-- A blob as the text of its bytes. -/
def blobAsText : Datum → Datum
  | blob bytes => text bytes
  | d => d

/-! ### Affinity -/

/-- An integer instead of a real that equals one. The two ends of the range stay
real. -/
def preferInteger (x : Binary64) : Datum :=
  match x.exactInt64? with
  | some n => if n = Int64.minValue ∨ n = Int64.maxValue then real x else integer n
  | none => real x

/-- A text that spells a number becomes that number. -/
def numeric (d : Datum) : Datum :=
  match d with
  | text bytes =>
    match wholeNumber? (byteChars bytes) with
    | some number =>
      if number.isInteger && (clampInt64 number.signedDigits).toInt == number.signedDigits then
        integer (.ofInt number.signedDigits)
      else real number.toReal
    | none => d
  | _ => d

/-- The value in the class that a column prefers, where it has a form there. -/
def withAffinity (affinity : Affinity) (d : Datum) : Datum :=
  match affinity with
  | .none => d
  | .text =>
    match d with
    | integer _ => text d.bytes
    | real _ => text d.bytes
    | _ => d
  | .real =>
    match d.numeric with
    | integer n => real (.ofInt n.toInt)
    | other => other
  | _ =>
    match d.numeric with
    | real x => preferInteger x
    | other => other

/-- The value converted without regard to its own class. -/
def cast (affinity : Affinity) (d : Datum) : Datum :=
  match d with
  | null => null
  | _ =>
    match affinity with
    | .text => text d.bytes
    | .none => blob d.bytes
    | .integer => integer d.toInt64
    | .real => real d.toReal
    | .numeric =>
      match d with
      | integer n => integer n
      | real x => real x
      | _ => preferInteger d.toReal

/-! ### Order -/

/-- An integer and a real are compared as the numbers that they are. -/
def compareIntReal (n : Int) (x : Binary64) : Ordering :=
  if x.isInfinite then (if x.isNegative then .gt else .lt)
  else Ord.compare (n * x.fraction.2) x.signedNumerator

/-- The position of a class: null, numbers, text, blobs. -/
def rank : Datum → Nat
  | null => 0
  | integer _ => 1
  | real _ => 1
  | text _ => 2
  | blob _ => 3

def compare (a b : Datum) : Ordering :=
  match a, b with
  | integer m, integer n => Ord.compare m.toInt n.toInt
  | integer m, real y => compareIntReal m.toInt y
  | real x, integer n => (compareIntReal n.toInt x).swap
  | real x, real y => x.compare y
  | text s, text t => compareBytes s.data.toList t.data.toList
  | blob s, blob t => compareBytes s.data.toList t.data.toList
  | _, _ => Ord.compare a.rank b.rank

/-- Whether the value counts as true in a condition. -/
def isTrue : Datum → Bool
  | null => false
  | integer n => n != 0
  | d => !d.toReal.isZero

end Datum

end SqliteBridge.Sql
