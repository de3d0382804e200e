import SqliteBridge.Json.Scalar
import SqliteBridge.Json.Skip

/-! Records, variants and sequences, each described by a value that says both how it
is read and how it is written. A record is read from an object or from an array that
lists its fields in order; a variant from its name or from an object with one
member. -/
namespace SqliteBridge.Json

/-- Names in the list of what a message would have accepted. -/
def oneOf : List String → String
  | [] => "there are no fields"
  | [a] => s!"expected \x60{a}\x60"
  | [a, b] => s!"expected \x60{a}\x60 or \x60{b}\x60"
  | names => "expected one of " ++ ", ".intercalate (names.map fun name => s!"\x60{name}\x60")

/-! ### Sequences -/

/-- Whether another element follows. The first needs no comma before it. -/
def hasElement (first : Bool) : Reader Bool := do
  match ← peek with
  | none => throw .truncated
  | some ']' => pure false
  | some c =>
    if first then pure true
    else if c = ',' then
      advance
      match ← peek with
      | none => throw .truncated
      | some ']' => throw .malformed
      | some _ => pure true
    else throw .malformed

/-- The closing bracket of an array. -/
def closeArray : Reader Unit := do
  match ← peek with
  | some ']' => advance
  | some _ => throw .malformed
  | none => throw .truncated

def elements {α : Type} (read : Reader α) : (fuel : Nat) → (first : Bool) → Reader (List α)
  | 0, _ => throw .malformed
  | fuel + 1, first => do
    if ← hasElement first then
      let item ← read
      let rest ← elements read fuel false
      pure (item :: rest)
    else
      pure []

/-- An array of any length. -/
def sequence {α : Type} (read : Reader α) : Reader (List α) := do
  match ← peek with
  | none => throw .truncated
  | some '[' =>
    advance
    let items ← elements read ((← get).length + 1) true
    closeArray
    pure items
  | some _ => mismatch "a sequence"

/-! ### Records -/

structure Field (β : Type) where
  name : String
  /-- Whether an object must have the field. -/
  required : Bool
  write : β → List Char
  /-- Reads a value and puts it into the field. -/
  store : β → Reader β

/-- A record type: its fields in order and what becomes of missing and unknown ones. -/
structure Record (β : Type) where
  name : String
  /-- The values of fields that the text does not give. -/
  initial : β
  fields : List (Field β)
  /-- Whether an array may leave out fields at its end. -/
  defaults : Bool
  /-- Whether an unknown field is refused. -/
  strict : Bool

namespace Record

variable {β : Type}

def title (record : Record β) : String := "struct " ++ record.name

/-- Whether another member follows; if so, its key is next. -/
def hasMember (first : Bool) : Reader Bool := do
  match ← peek with
  | none => throw .truncated
  | some '}' => pure false
  | some c =>
    if first then
      if c = '"' then pure true else throw .malformed
    else if c = ',' then
      advance
      match ← peek with
      | none => throw .truncated
      | some '"' => pure true
      | some _ => throw .malformed
    else throw .malformed

/-- The members of an object. A repeated or refused name is a fault as soon as it is
read. `seen` holds the names of the fields that have a value. -/
def members (record : Record β) : (fuel : Nat) → (first : Bool) → (seen : List String) → β →
    Reader (List String × β)
  | 0, _, _, _ => throw .malformed
  | fuel + 1, first, seen, value => do
    if ← hasMember first then
      let key ← quotedString
      match record.fields.find? (fun field => field.name == key) with
      | some field =>
        if seen.contains key then throw (.data s!"duplicate field \x60{key}\x60")
        colon
        let value ← field.store value
        record.members fuel false (key :: seen) value
      | none =>
        if record.strict then
          throw (.data (s!"unknown field \x60{key}\x60, " ++ oneOf (record.fields.map Field.name)))
        colon
        skip
        record.members fuel false seen value
    else
      pure (seen, value)

/-- The closing brace of an object. -/
def closeObject : Reader Unit := do
  match ← peek with
  | some '}' => advance
  | some _ => throw .malformed
  | none => throw .truncated

/-- The fields of an array, in order. -/
def items (record : Record β) : List (Field β) → (count : Nat) → β → Reader β
  | [], _, value => pure value
  | field :: rest, count, value => do
    if ← hasElement (count == 0) then
      let value ← field.store value
      record.items rest (count + 1) value
    else if record.defaults then
      pure value
    else
      throw (.data (s!"invalid length {count}, expected " ++ record.title
        ++ s!" with {record.fields.length} elements"))

def read (record : Record β) : Reader β := do
  match ← peek with
  | none => throw .truncated
  | some '[' =>
    advance
    let value ← record.items record.fields 0 record.initial
    closeArray
    pure value
  | some '{' =>
    advance
    let (seen, value) ← record.members ((← get).length + 1) true [] record.initial
    match record.fields.find? (fun field => field.required && !seen.contains field.name) with
    | some field => throw (.data s!"missing field \x60{field.name}\x60")
    | none => pure ()
    closeObject
    pure value
  | some _ => mismatch record.title

def write (record : Record β) (value : β) : List Char :=
  '{' :: commaSeparated (record.fields.map fun field =>
    writeString field.name ++ ':' :: field.write value) ++ ['}']

end Record

/-! ### Variants -/

/-- A named alternative that reads as `α`, with or without content. -/
inductive Variant (α : Type) where
  | bare (name : String) (value : α)
  | holding (name : String) (read : Reader α)

namespace Variant

variable {α : Type}

def name : Variant α → String
  | bare name _ => name
  | holding name _ => name

/-- The alternative of a name. -/
def choose (variants : List (Variant α)) (name : String) : Reader (Variant α) :=
  match variants.find? (fun variant => variant.name == name) with
  | some variant => pure variant
  | none =>
    throw (.data (s!"unknown variant \x60{name}\x60, " ++ oneOf (variants.map Variant.name)))

/-- The name of an alternative as the key of an object. -/
def key : Reader String := do
  match ← peek with
  | none => throw .truncated
  | some '"' => quotedString
  | some _ => mismatch "variant identifier"

def content : Variant α → Reader α
  | bare _ value => do unit; pure value
  | holding _ read => read

def read (variants : List (Variant α)) : Reader α := do
  match ← peek with
  | none => throw .truncated
  | some '{' =>
    advance
    let variant ← choose variants (← key)
    colon
    let value ← variant.content
    match ← peek with
    | some '}' => advance; pure value
    | some _ => throw .malformed
    | none => throw .truncated
  | some '"' =>
    match ← choose variants (← quotedString) with
    | bare _ value => pure value
    | holding _ _ => throw (invalidType "unit variant" "newtype variant")
  | some _ => throw .malformed

/-- An alternative with content. -/
def writeHolding (name : String) (content : List Char) : List Char :=
  '{' :: writeString name ++ ':' :: content ++ ['}']

end Variant

/-! ### Whole texts -/

/-- The value of a text that holds nothing else. -/
def parse {α : Type} (read : Reader α) (text : String) : Except Fault α := do
  let (value, rest) ← read.run text.toList
  if (rest.dropWhile isBlank).isEmpty then pure value else throw .malformed

end SqliteBridge.Json
