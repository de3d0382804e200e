import SqliteBridge.Sql.Datum

/-! Tokens of SQL text. Each token knows where it stands, so that an expression and
an error can be named by their own text. Characters outside ASCII are letters. -/
namespace SqliteBridge.Sql

inductive Lexeme where
  /-- A bare word: a keyword or a name. -/
  | word (text : String)
  /-- A name in quotes. In double quotes it may also stand for a text. -/
  | quotedName (text : String) (double : Bool)
  | text (s : String)
  | blob (bytes : ByteArray)
  | integer (n : Nat)
  | real (x : Binary64)
  /-- A parameter with its mark: `?`, `?5`, `:name`, `@name` or `$name`. -/
  | parameter (name : String)
  | symbol (text : String)
  | illegal
deriving DecidableEq

/-- A token, with the positions of its first character and of the one after it. -/
structure Token where
  lexeme : Lexeme
  start : Nat
  stop : Nat
deriving DecidableEq

namespace Token

def isWordStart (c : Char) : Bool := c.isAlpha || c == '_' || decide (0x80 ≤ c.toNat)

def isWordPart (c : Char) : Bool := isWordStart c || c.isDigit || c == '$'

/-- A blank between tokens; a byte order mark counts as one. -/
def isBlank (c : Char) : Bool :=
  c == ' ' || c == '\t' || c == '\n' || c == '\x0c' || c == '\r' || c == '\ufeff'

/-- The body of a quotation in which the quote is doubled, and the number of
characters up to and with the closing quote. -/
def quotation (quote : Char) : List Char → Option (List Char × Nat)
  | [] => none
  | c :: rest =>
    if c = quote then
      match rest with
      | d :: after =>
        if d = quote then (quotation quote after).map fun (body, n) => (quote :: body, n + 2)
        else some ([], 1)
      | [] => some ([], 1)
    else (quotation quote rest).map fun (body, n) => (c :: body, n + 1)

/-- The number of characters of a block comment after its opening. -/
def blockComment : List Char → Nat
  | [] => 0
  | '*' :: '/' :: _ => 2
  | _ :: rest => blockComment rest + 1

def hexValue (c : Char) : Option Nat :=
  if c.isDigit then some (c.toNat - '0'.toNat)
  else if 'a' ≤ c ∧ c ≤ 'f' then some (c.toNat - 'a'.toNat + 10)
  else if 'A' ≤ c ∧ c ≤ 'F' then some (c.toNat - 'A'.toNat + 10)
  else none

/-- The bytes that pairs of hexadecimal digits spell. -/
def hexPairs : List Char → Option (List UInt8)
  | [] => some []
  | a :: b :: rest =>
    match hexValue a, hexValue b, hexPairs rest with
    | some a, some b, some bytes => some (.ofNat (a * 16 + b) :: bytes)
    | _, _, _ => none
  | [_] => none

/-- A blob literal, given what follows its opening quote. Without an even number of
digits up to the quote it is illegal as a whole. -/
def blobLexeme (text : List Char) : Lexeme × Nat :=
  let digits := text.takeWhile fun c => (hexValue c).isSome
  let rest := text.dropWhile fun c => (hexValue c).isSome
  match rest.head?, hexPairs digits with
  | some '\'', some bytes => (.blob ⟨bytes.toArray⟩, digits.length + 3)
  | _, _ =>
    let skipped := rest.takeWhile (· != '\'')
    (.illegal, digits.length + skipped.length + (if skipped.length < rest.length then 3 else 2))

/-- A number literal. A letter right after it makes it illegal. -/
def numberLexeme (text : List Char) : Lexeme × Nat :=
  let number := leadingNumber text
  let trailing := number.rest.takeWhile isWordPart
  let length := text.length - number.rest.length
  if !trailing.isEmpty then (.illegal, length + trailing.length)
  else if number.isInteger then (.integer number.digits, length)
  else (.real number.toReal, length)

def parameterLexeme (mark : Char) (rest : List Char) : Lexeme × Nat :=
  if mark = '?' then
    let digits := rest.takeWhile Char.isDigit
    (.parameter (.ofList (mark :: digits)), digits.length + 1)
  else
    let name := rest.takeWhile isWordPart
    if name.isEmpty then (.illegal, 1)
    else (.parameter (.ofList (mark :: name)), name.length + 1)

def symbolLexeme (c : Char) (rest : List Char) : Lexeme × Nat :=
  if c = '=' then
    if rest.head? = some '=' then (.symbol "=", 2) else (.symbol "=", 1)
  else if "(),;*-+/%<>&|~.".toList.contains c then (.symbol c.toString, 1)
  else (.illegal, 1)

/-- A quoted name or text, or an illegal token up to the end of the text. -/
def quoteLexeme (make : String → Lexeme) (quote : Char) (rest : List Char) : Lexeme × Nat :=
  match quotation quote rest with
  | some (body, n) => (make (.ofList body), n + 1)
  | none => (.illegal, rest.length + 1)

/-- The lexeme that starts with `c`, and its length; a blank or a comment has none. -/
def lexemeAt (c : Char) (rest : List Char) : Option Lexeme × Nat :=
  let found (result : Lexeme × Nat) : Option Lexeme × Nat := (some result.1, result.2)
  if isBlank c then (none, (rest.takeWhile isBlank).length + 1)
  else if c = '-' ∧ rest.head? = some '-' then
    (none, (rest.takeWhile (· != '\n')).length + 1)
  else if c = '/' ∧ rest.head? = some '*' ∧ 1 < rest.length then
    (none, 2 + blockComment rest.tail)
  else if c = '\'' then found (quoteLexeme .text c rest)
  else if c = '"' then found (quoteLexeme (.quotedName · true) c rest)
  else if c = '\x60' then found (quoteLexeme (.quotedName · false) c rest)
  else if c = '[' then
    let name := rest.takeWhile (· != ']')
    if name.length < rest.length then (some (.quotedName (.ofList name) false), name.length + 2)
    else (some .illegal, rest.length + 1)
  else if (c = 'x' ∨ c = 'X') ∧ rest.head? = some '\'' then found (blobLexeme rest.tail)
  else if c.isDigit then found (numberLexeme (c :: rest))
  else if c = '.' ∧ (rest.head?.map Char.isDigit) = some true then found (numberLexeme (c :: rest))
  else if c = '?' ∨ c = ':' ∨ c = '@' ∨ c = '$' then found (parameterLexeme c rest)
  else if isWordStart c then
    let more := rest.takeWhile isWordPart
    (some (.word (.ofList (c :: more))), more.length + 1)
  else found (symbolLexeme c rest)

/-- The tokens of a text that stands at a position. -/
def scan (position : Nat) : List Char → List Token
  | [] => []
  | c :: rest =>
    let (lexeme, length) := lexemeAt c rest
    let more := scan (position + max length 1) (rest.drop (length - 1))
    match lexeme with
    | some lexeme => ⟨lexeme, position, position + length⟩ :: more
    | none => more
termination_by text => text.length
decreasing_by simp only [List.length_drop, List.length_cons]; omega

end Token

end SqliteBridge.Sql
