import SqliteBridge.Json.Number

/-! Values that nobody reads. They are checked to be JSON, to any depth, without
being built: only the brackets that are still open are remembered. -/
namespace SqliteBridge.Json

inductive Bracket where
  | array
  | object
deriving DecidableEq

def Bracket.closing : Bracket → Char
  | array => ']'
  | object => '}'

/-- A number that nobody reads. A fault in it is malformed text even at its end. -/
def skipNumber : Reader Unit := do
  if (← get).head? = some '-' then advance
  let digits ← Number.takeDigits
  if digits.isEmpty ∨ (digits.head? = some '0' ∧ 1 < digits.length) then throw .malformed
  if (← get).head? = some '.' then
    advance
    if (← Number.takeDigits).isEmpty then throw .malformed
  if (← get).head? = some 'e' ∨ (← get).head? = some 'E' then
    advance
    if (← get).head? = some '+' ∨ (← get).head? = some '-' then advance
    if (← Number.takeDigits).isEmpty then throw .malformed

/-- The colon between a key and its value. -/
def colon : Reader Unit := do
  match ← peek with
  | some ':' => advance
  | some _ => throw .malformed
  | none => throw .truncated

/-- A string whose opening quote is next. -/
def skipQuoted : Reader Unit := do
  advance
  let text ← get
  let rest ← (skipString text : Except Fault _)
  set rest

/-- The key and the colon of a member. -/
def skipKey : Reader Unit := do
  match ← peek with
  | some '"' => skipQuoted; colon
  | some _ => throw .malformed
  | none => throw .truncated

/-- A scalar, or the opening bracket of a container. -/
def skipStart : Reader (Option Bracket) := do
  match ← peek with
  | none => throw .truncated
  | some 'n' => word ['n', 'u', 'l', 'l']; pure none
  | some 't' => word ['t', 'r', 'u', 'e']; pure none
  | some 'f' => word ['f', 'a', 'l', 's', 'e']; pure none
  | some '"' => skipQuoted; pure none
  | some '[' => advance; pure (some .array)
  | some '{' => advance; pure (some .object)
  | some c => if c = '-' ∨ c.isDigit then skipNumber; pure none else throw .malformed

/-- What follows a finished value: closing brackets as far as they go, then a comma
if one is still open. An opened container that is not empty goes on as well. -/
def skipClosings : List Bracket → (afterItem : Bool) → Reader (List Bracket)
  | [], _ => pure []
  | bracket :: outer, afterItem => do
    match ← peek with
    | none => throw .truncated
    | some c =>
      if c = bracket.closing then
        advance
        skipClosings outer true
      else if afterItem then
        if c = ',' then
          advance
          pure (bracket :: outer)
        else
          throw .malformed
      else
        pure (bracket :: outer)

/-- Skips values until no bracket is open. Each turn takes at least one character. -/
def skipOpen : (fuel : Nat) → List Bracket → Reader Unit
  | 0, _ => throw .malformed
  | fuel + 1, opened => do
    if opened.head? = some .object then skipKey
    let opened ← match ← skipStart with
      | none => skipClosings opened true
      | some bracket => skipClosings (bracket :: opened) false
    if opened.isEmpty then pure () else skipOpen fuel opened

/-- A value of any kind. -/
def skip : Reader Unit := do
  skipOpen ((← get).length + 1) []

end SqliteBridge.Json
