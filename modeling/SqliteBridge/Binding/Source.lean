import SqliteBridge.Text.IdentifierCharacters
import SqliteBridge.Text.Quoted

/-! Rust source as token trees, and its written form. Tokens are separated by one
blank, except that a punctuation character which forms one token with the next
stands right before it. -/
namespace SqliteBridge.Binding

/-- An identifier; a raw one may be spelled like a keyword. -/
structure Identifier where
  name : String
  isRaw : Bool
deriving DecidableEq, Inhabited

namespace Identifier

/-- Whether characters are spelled like an identifier. -/
def isSpelled : List Char → Bool
  | [] => false
  | first :: rest => Text.startsIdentifier first && rest.all Text.continuesIdentifier

/-- The words that even a raw identifier cannot be. -/
def pathWords : List String := ["_", "super", "self", "Self", "crate"]

/-- An identifier of the given name, or the message of the refusal. -/
def plain (name : String) : Except String Identifier :=
  if name.toList.isEmpty then .error "Ident is not allowed to be empty; use Option<Ident>"
  else if name.toList.all Char.isDigit then
    .error "Ident cannot be a number; use Literal instead"
  else if isSpelled name.toList then .ok ⟨name, false⟩
  else .error (Text.quoted name ++ " is not a valid Ident")

/-- An identifier from its written form, in which `r#` marks a raw one. -/
def ofText (text : String) : Except String Identifier :=
  match text.toList with
  | 'r' :: '#' :: rest => do
    let identifier ← plain (.ofList rest)
    if pathWords.contains identifier.name then
      .error s!"\x60r#{identifier.name}\x60 cannot be a raw identifier"
    else
      .ok { identifier with isRaw := true }
  | _ => plain text

def text (identifier : Identifier) : List Char :=
  if identifier.isRaw then 'r' :: '#' :: identifier.name.toList else identifier.name.toList

end Identifier

inductive Delimiter where
  | parenthesis
  | bracket
  | brace
deriving DecidableEq

inductive Tree where
  | identifier (identifier : Identifier)
  /-- A punctuation character, and whether it forms one token with the next. -/
  | punctuation (c : Char) (joint : Bool)
  | literal (text : String)
  | group (delimiter : Delimiter) (trees : List Tree)

abbrev Source := List Tree

namespace Source

mutual

/-- The written form of one tree. -/
def writeTree : Tree → List Char
  | .identifier identifier => identifier.text
  | .punctuation c _ => [c]
  | .literal text => text.toList
  | .group .parenthesis trees => '(' :: writeTrees trees ++ [')']
  | .group .bracket trees => '[' :: writeTrees trees ++ [']']
  | .group .brace [] => ['{', ' ', '}']
  | .group .brace trees => '{' :: ' ' :: writeTrees trees ++ [' ', '}']

/-- The written form of consecutive trees. -/
def writeTrees : List Tree → List Char
  | [] => []
  | [tree] => writeTree tree
  | tree :: next :: rest =>
    match tree with
    | .punctuation c true => c :: writeTrees (next :: rest)
    | _ => writeTree tree ++ ' ' :: writeTrees (next :: rest)

end

def text (source : Source) : String := .ofList (writeTrees source)

/-! ### Building source -/

def name (text : String) : Tree := .identifier ⟨text, false⟩

def symbol (c : Char) : Tree := .punctuation c false

/-- Punctuation characters that form one token. -/
def symbols : List Char → Source
  | [] => []
  | [c] => [.punctuation c false]
  | c :: rest => .punctuation c true :: symbols rest

/-- A word of source text: an identifier, or punctuation. -/
def word (text : String) : Source :=
  if Identifier.isSpelled text.toList then [name text] else symbols text.toList

def words (texts : List String) : Source := texts.flatMap word

def string (text : String) : Tree := .literal (Text.literal text)

def parenthesized (source : Source) : Tree := .group .parenthesis source

def bracketed (source : Source) : Tree := .group .bracket source

def braced (source : Source) : Tree := .group .brace source

/-- Sources with a comma between them. -/
def commaSeparated : List Source → Source
  | [] => []
  | [source] => source
  | source :: rest => source ++ symbol ',' :: commaSeparated rest

/-- A lifetime of the given name. -/
def lifetime (text : String) : Source := [.punctuation '\'' true, name text]

end Source

end SqliteBridge.Binding
