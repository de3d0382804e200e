import SqliteBridge.Text.Quoted

/-! Reading JSON text from left to right. A reader takes a value of one expected
kind from the front of a text and leaves the rest, or gives the first fault it
meets. A text that is sound but holds the wrong kind of value has a message; a text
that is no JSON, or that ends inside a value, has none. -/
namespace SqliteBridge.Json

inductive Fault where
  /-- A well-formed value that the reader does not accept. -/
  | data (message : String)
  /-- Not JSON, or something after the value. -/
  | malformed
  /-- The text ends inside the value. -/
  | truncated
deriving DecidableEq

abbrev Reader (α : Type) := StateT (List Char) (Except Fault) α

def isBlank (c : Char) : Bool := c == ' ' || c == '\n' || c == '\t' || c == '\r'

/-- The next character after blanks, which are left behind. -/
def peek : Reader (Option Char) := fun text =>
  let text := text.dropWhile isBlank
  .ok (text.head?, text)

def advance : Reader Unit := fun text => .ok ((), text.tail)

/-- The characters of a name such as `null`, with nothing between them. -/
def word : List Char → Reader Unit
  | [] => pure ()
  | expected :: more => fun text =>
    match text with
    | [] => .error .truncated
    | c :: rest => if c = expected then word more rest else .error .malformed

/-! ### Strings -/

def hexValue? (c : Char) : Option Nat :=
  if '0' ≤ c ∧ c ≤ '9' then some (c.toNat - '0'.toNat)
  else if 'a' ≤ c ∧ c ≤ 'f' then some (c.toNat - 'a'.toNat + 10)
  else if 'A' ≤ c ∧ c ≤ 'F' then some (c.toNat - 'A'.toNat + 10)
  else none

/-- The four digits of a `\u` escape. The text counts as too short only if fewer
than four bytes of it are left. -/
def hexQuad (text : List Char) : Except Fault Nat :=
  match text with
  | a :: b :: c :: d :: _ =>
    match hexValue? a, hexValue? b, hexValue? c, hexValue? d with
    | some a, some b, some c, some d => .ok (((a * 16 + b) * 16 + c) * 16 + d)
    | _, _, _, _ => .error .malformed
  | _ => .error (if (String.ofList text).utf8ByteSize < 4 then .truncated else .malformed)

def isHighSurrogate (unit : Nat) : Bool := decide (0xd800 ≤ unit) && decide (unit ≤ 0xdbff)

def isLowSurrogate (unit : Nat) : Bool := decide (0xdc00 ≤ unit) && decide (unit ≤ 0xdfff)

/-- The character of an escape, and how many characters after the backslash it
takes. A high surrogate needs the escape of a low one right behind it. -/
def escape (text : List Char) : Except Fault (Char × Nat) :=
  match text with
  | [] => .error .truncated
  | '"' :: _ => .ok ('"', 1)
  | '\\' :: _ => .ok ('\\', 1)
  | '/' :: _ => .ok ('/', 1)
  | 'b' :: _ => .ok ('\x08', 1)
  | 'f' :: _ => .ok ('\x0c', 1)
  | 'n' :: _ => .ok ('\n', 1)
  | 'r' :: _ => .ok ('\r', 1)
  | 't' :: _ => .ok ('\t', 1)
  | 'u' :: rest => do
    let unit ← hexQuad rest
    if isLowSurrogate unit then .error .malformed
    else if isHighSurrogate unit then
      match rest.drop 4 with
      | [] => .error .truncated
      | ['\\'] => .error .truncated
      | '\\' :: 'u' :: after =>
        let low ← hexQuad after
        if isLowSurrogate low then
          .ok (Char.ofNat (0x10000 + (unit - 0xd800) * 0x400 + (low - 0xdc00)), 11)
        else .error .malformed
      | _ => .error .malformed
    else .ok (Char.ofNat unit, 5)
  | _ => .error .malformed

/-- The text of a string after its opening quote, and what follows the closing one. -/
def stringBody : List Char → Except Fault (List Char × List Char)
  | [] => .error .truncated
  | c :: rest =>
    if c = '"' then .ok ([], rest)
    else if c = '\\' then do
      let (escaped, taken) ← escape rest
      let (body, rest) ← stringBody (rest.drop taken)
      .ok (escaped :: body, rest)
    else if c.toNat < 0x20 then .error .malformed
    else do
      let (body, rest) ← stringBody rest
      .ok (c :: body, rest)
termination_by text => text.length
decreasing_by all_goals simp; try omega

/-- How many characters an escape takes in a string that nobody reads; surrogates
need no partner there. -/
def skippedEscape (text : List Char) : Except Fault Nat :=
  match text with
  | [] => .error .truncated
  | 'u' :: rest => do
    let _ ← hexQuad rest
    .ok 5
  | c :: _ =>
    if c = '"' ∨ c = '\\' ∨ c = '/' ∨ c = 'b' ∨ c = 'f' ∨ c = 'n' ∨ c = 'r' ∨ c = 't' then .ok 1
    else .error .malformed

/-- What follows a string that nobody reads. -/
def skipString : List Char → Except Fault (List Char)
  | [] => .error .truncated
  | c :: rest =>
    if c = '"' then .ok rest
    else if c = '\\' then do
      let taken ← skippedEscape rest
      skipString (rest.drop taken)
    else if c.toNat < 0x20 then .error .malformed
    else skipString rest
termination_by text => text.length
decreasing_by all_goals simp; try omega

/-- A string whose opening quote is next. -/
def quotedString : Reader String := do
  advance
  let text ← get
  let (body, rest) ← (stringBody text : Except Fault _)
  set rest
  pure (.ofList body)

end SqliteBridge.Json
