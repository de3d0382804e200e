import SqliteBridge.Json.Reader
import SqliteBridge.Number.Notation

/-! JSON numbers. An integer that fits in 64 bits, unsigned or negative, stays an
integer; every other number is a binary64 number. The digits of such a number are
first gathered into 64 bits, and the digits that do not fit are dropped, before one
multiplication or division by a power of ten gives the value. -/
namespace SqliteBridge.Json

inductive Number where
  | natural (n : Nat)
  | negative (n : Int)
  | float (x : Binary64)
deriving DecidableEq

namespace Number

def digitLimit : Nat := 0xffffffffffffffff

def digitValue (c : Char) : Nat := c.toNat - '0'.toNat

/-- Digits gathered so far: their value and how many digits no longer fitted. -/
structure Gathered where
  value : Nat
  dropped : Nat
deriving DecidableEq

def Gathered.add (g : Gathered) (digit : Char) : Gathered :=
  let next := g.value * 10 + digitValue digit
  if g.dropped = 0 ∧ next ≤ digitLimit then ⟨next, 0⟩ else ⟨g.value, g.dropped + 1⟩

/-- The digits at the front of a text. -/
def takeDigits : Reader (List Char) := fun text =>
  .ok (text.takeWhile Char.isDigit, text.dropWhile Char.isDigit)

def powerOfTen (n : Nat) : Binary64 := .ofDecimal false 1 n

/-- The number divided by a power of ten, in steps that a power of ten can express. -/
def divideDown (x : Binary64) (places : Nat) : Binary64 :=
  if places ≤ 308 then x.div (powerOfTen places)
  else if x.isZero then x
  else divideDown (x.div (powerOfTen 308)) (places - 308)
termination_by places
decreasing_by omega

/-- The value of gathered digits times a power of ten; it must be finite. -/
def ofParts (isNegative : Bool) (digits : Nat) (exponent : Int) : Reader Number := do
  let x := Binary64.ofInt digits
  let scaled ←
    if exponent < 0 then pure (divideDown x exponent.natAbs)
    else if 308 < exponent then
      if x.isZero then pure x else throw .malformed
    else
      let product := x.mul (powerOfTen exponent.toNat)
      if product.isInfinite then throw .malformed else pure product
  pure (.float (if isNegative then scaled.negate else scaled))

def exponentLimit : Nat := 0x7fffffff

/-- The exponent after its letter, added to the exponent that the digits have. An
exponent past 32 bits makes any number but zero too large, or zero. -/
def exponentPart (isNegative : Bool) (digits : Nat) (start : Int) : Reader Number := do
  advance
  let sign := (← get).head?
  if sign = some '+' ∨ sign = some '-' then advance
  match (← get).head? with
  | none => throw .truncated
  | some c => if !c.isDigit then throw .malformed
  let text ← takeDigits
  let exponent := text.foldl (fun n c => n * 10 + digitValue c) 0
  if exponentLimit < exponent then
    if digits ≠ 0 ∧ sign ≠ some '-' then throw .malformed
    else pure (.float (.zero isNegative))
  else
    ofParts isNegative digits (if sign = some '-' then start - exponent else start + exponent)

/-- The digits after the point. Those that no longer fit do not count. -/
def fractionPart (isNegative : Bool) (digits : Nat) (start : Int) : Reader Number := do
  advance
  let text ← takeDigits
  let rest ← get
  if text.isEmpty then throw (if rest.isEmpty then .truncated else .malformed)
  let gathered := text.foldl Gathered.add ⟨digits, 0⟩
  let exponent := start - ((text.length : Int) - gathered.dropped)
  if rest.head? = some 'e' ∨ rest.head? = some 'E' then
    exponentPart isNegative gathered.value exponent
  else
    ofParts isNegative gathered.value exponent

/-- A number without its sign. -/
def unsigned (isNegative : Bool) : Reader Number := do
  match (← get).head? with
  | none => throw .truncated
  | some c => if !c.isDigit then throw .malformed
  let text ← takeDigits
  if text.head? = some '0' ∧ 1 < text.length then throw .malformed
  let gathered := text.foldl Gathered.add ⟨0, 0⟩
  match (← get).head? with
  | some '.' => fractionPart isNegative gathered.value gathered.dropped
  | some 'e' => exponentPart isNegative gathered.value gathered.dropped
  | some 'E' => exponentPart isNegative gathered.value gathered.dropped
  | _ =>
    if gathered.dropped ≠ 0 then ofParts isNegative gathered.value gathered.dropped
    else if !isNegative then pure (.natural gathered.value)
    else if gathered.value = 0 ∨ 0x8000000000000000 < gathered.value then
      pure (.float (Binary64.ofInt gathered.value).negate)
    else pure (.negative (-(gathered.value : Int)))

/-- A number whose first character is next. -/
def read : Reader Number := do
  if (← get).head? = some '-' then
    advance
    unsigned true
  else
    unsigned false

/-- The number as a message names it. -/
def describe : Number → String
  | natural n => s!"integer \x60{n}\x60"
  | negative n => s!"integer \x60{n}\x60"
  | float x => "floating point \x60" ++ .ofList x.jsonText ++ "\x60"

end Number

end SqliteBridge.Json
