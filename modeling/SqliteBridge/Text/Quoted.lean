import SqliteBridge.Text.GraphemeExtend
import SqliteBridge.Text.Unprintable

/-! Quoted text: a string between double quotes in which every character without a
visible form of its own is written as an escape. -/
namespace SqliteBridge.Text

def hexDigits (n : Nat) : List Char := Nat.toDigits 16 n

/-- `\u` with the code point in braces. -/
def codePointEscape (c : Char) : List Char :=
  ['\\', 'u', '\x7b'] ++ hexDigits c.toNat ++ ['\x7d']

/-- The written form of a character other than NUL between double quotes. -/
def escapeChar (c : Char) : List Char :=
  match c with
  | '\t' => ['\\', 't']
  | '\r' => ['\\', 'r']
  | '\n' => ['\\', 'n']
  | '"' => ['\\', '"']
  | '\\' => ['\\', '\\']
  | _ => if extendsGrapheme c || isUnprintable c then codePointEscape c else [c]

/-- The body of a diagnostic quotation; NUL is always `\0`. -/
def diagnosticBody : List Char → List Char
  | [] => []
  | c :: rest => (if c = '\x00' then ['\\', '0'] else escapeChar c) ++ diagnosticBody rest

/-- A string quoted in a message. -/
def quoted (s : String) : String := .ofList ('"' :: diagnosticBody s.toList ++ ['"'])

def isOctalDigit (c : Char) : Bool := decide ('0' ≤ c) && decide (c ≤ '7')

/-- The body of a string literal. NUL before an octal digit takes its long form, so
that the digit does not seem to belong to it. -/
def literalBody : List Char → List Char
  | [] => []
  | c :: rest =>
    (if c = '\x00' then
      match rest with
      | next :: _ => if isOctalDigit next then ['\\', 'x', '0', '0'] else ['\\', '0']
      | [] => ['\\', '0']
    else escapeChar c) ++ literalBody rest

/-- A string as a literal of source text. -/
def literal (s : String) : String := .ofList ('"' :: literalBody s.toList ++ ['"'])

end SqliteBridge.Text
