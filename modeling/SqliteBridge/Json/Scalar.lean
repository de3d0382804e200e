import SqliteBridge.Json.Number

/-! Readers and written forms of the scalar kinds, and the messages of values of
another kind. -/
namespace SqliteBridge.Json

def invalidType (found expected : String) : Fault :=
  .data s!"invalid type: {found}, expected {expected}"

def nullWord : List Char := ['n', 'u', 'l', 'l']

def trueWord : List Char := ['t', 'r', 'u', 'e']

def falseWord : List Char := ['f', 'a', 'l', 's', 'e']

/-- Fails on the next value, which is not of the expected kind. A scalar is read
first, since a fault in its text comes before the message. -/
def mismatch {α : Type} (expected : String) : Reader α := do
  match ← peek with
  | some 'n' => word nullWord; throw (invalidType "null" expected)
  | some 't' => word trueWord; throw (invalidType "boolean \x60true\x60" expected)
  | some 'f' => word falseWord; throw (invalidType "boolean \x60false\x60" expected)
  | some '"' =>
    let text ← quotedString
    throw (invalidType ("string " ++ Text.quoted text) expected)
  | some '[' => throw (invalidType "sequence" expected)
  | some '{' => throw (invalidType "map" expected)
  | some c =>
    if c = '-' ∨ c.isDigit then
      let number ← Number.read
      throw (invalidType number.describe expected)
    else
      throw .malformed
  | none => throw .truncated

/-- A number; `expected` names what the caller makes of it. -/
def number (expected : String) : Reader Number := do
  match ← peek with
  | none => throw .truncated
  | some c => if c = '-' ∨ c.isDigit then Number.read else mismatch expected

/-- An integer from `low` to `high`. -/
def integer (expected : String) (low high : Int) : Reader Int := do
  let n ← number expected
  match n with
  | .float _ => throw (invalidType n.describe expected)
  | .natural value =>
    if low ≤ value ∧ value ≤ high then pure value
    else throw (.data s!"invalid value: {n.describe}, expected {expected}")
  | .negative value =>
    if low ≤ value ∧ value ≤ high then pure value
    else throw (.data s!"invalid value: {n.describe}, expected {expected}")

/-- A binary64 number; an integer is rounded to one. -/
def binary64 : Reader Binary64 := do
  match ← number "f64" with
  | .float x => pure x
  | .natural n => pure (.ofInt n)
  | .negative n => pure (.ofInt n)

def string : Reader String := do
  match ← peek with
  | none => throw .truncated
  | some '"' => quotedString
  | some _ => mismatch "a string"

def boolean : Reader Bool := do
  match ← peek with
  | none => throw .truncated
  | some 't' => word trueWord; pure true
  | some 'f' => word falseWord; pure false
  | some _ => mismatch "a boolean"

def unit : Reader Unit := do
  match ← peek with
  | none => throw .truncated
  | some 'n' => word nullWord
  | some _ => mismatch "unit"

/-- `null`, or a value. -/
def optional {α : Type} (read : Reader α) : Reader (Option α) := do
  match ← peek with
  | some 'n' => word nullWord; pure none
  | _ => some <$> read

/-! ### Written forms -/

def writeInt (n : Int) : List Char := (toString n).toList

def writeBool (b : Bool) : List Char := if b then trueWord else falseWord

def hexDigit (n : Nat) : Char := (Nat.digitChar (n % 16))

/-- A character of a string. Quotes, backslashes and control characters are escaped,
and nothing else is. -/
def writeChar (c : Char) : List Char :=
  match c with
  | '"' => ['\\', '"']
  | '\\' => ['\\', '\\']
  | '\x08' => ['\\', 'b']
  | '\x0c' => ['\\', 'f']
  | '\n' => ['\\', 'n']
  | '\r' => ['\\', 'r']
  | '\t' => ['\\', 't']
  | _ =>
    if c.toNat < 0x20 then ['\\', 'u', '0', '0', hexDigit (c.toNat / 16), hexDigit c.toNat]
    else [c]

def writeString (s : String) : List Char := '"' :: s.toList.flatMap writeChar ++ ['"']

/-- A number without a JSON form is written as `null`. -/
def writeBinary64 (x : Binary64) : List Char := if x.isFinite then x.jsonText else nullWord

def writeOption {α : Type} (write : α → List Char) : Option α → List Char
  | some value => write value
  | none => nullWord

/-- Items with a comma between them. -/
def commaSeparated : List (List Char) → List Char
  | [] => []
  | [item] => item
  | item :: rest => item ++ ',' :: commaSeparated rest

def writeArray {α : Type} (write : α → List Char) (items : List α) : List Char :=
  '[' :: commaSeparated (items.map write) ++ [']']

end SqliteBridge.Json
