import SqliteBridge.Text.UpperCase

/-! The names of native methods: camel case on the side of the class, mangled into
the exported symbol, and snake case for the generated body. -/
namespace SqliteBridge.Binding

/-- At least four hexadecimal digits. -/
def hexUnit (unit : Nat) : List Char :=
  let digits := Nat.toDigits 16 unit
  List.replicate (4 - digits.length) '0' ++ digits

/-- The UTF-16 units of a character. -/
def utf16Units (c : Char) : List Nat :=
  if c.toNat < 0x10000 then [c.toNat]
  else [0xd800 + (c.toNat - 0x10000) / 0x400, 0xdc00 + (c.toNat - 0x10000) % 0x400]

def isAsciiAlphanumeric (c : Char) : Bool := decide (c.toNat < 0x80) && c.isAlphanum

/-- The form of a character in a symbol. A separator becomes `_`; `_` itself and two
other characters have short escapes, and any other character outside the ASCII
letters and digits is given by its UTF-16 units. -/
def mangleChar (c : Char) : List Char :=
  match c with
  | '/' => ['_']
  | '.' => ['_']
  | '_' => ['_', '1']
  | ';' => ['_', '2']
  | '[' => ['_', '3']
  | _ =>
    if isAsciiAlphanumeric c then [c]
    else (utf16Units c).flatMap fun unit => '_' :: '0' :: hexUnit unit

def mangleChars (name : List Char) : List Char := name.flatMap mangleChar

def mangle (name : String) : String := .ofList (mangleChars name.toList)

/-- The exported symbol of a method of a class. -/
def symbolName (className methodName : String) : String :=
  "Java_" ++ mangle className ++ "_" ++ mangle methodName

/-- The characters of a camel case name: an underscore is dropped and the character
after it becomes upper case, as does the first if `upper` says so. -/
def camelChars : (upper : Bool) → List Char → List Char
  | _, [] => []
  | upper, c :: rest =>
    if c = '_' then camelChars true rest
    else if upper then Text.upperCase c ++ camelChars false rest
    else c :: camelChars false rest

/-- The name of the native method of an operation. -/
def methodName (start operation : String) : String :=
  start ++ .ofList (camelChars (!start.isEmpty) operation.toList)

def isAsciiUpper (c : Char) : Bool := decide ('A' ≤ c) && decide (c ≤ 'Z')

/-- The characters of a snake case name: an upper case ASCII letter becomes lower
case with an underscore before it. -/
def snakeChars (name : List Char) : List Char :=
  name.flatMap fun c => if isAsciiUpper c then ['_', c.toLower] else [c]

/-- The snake case form; there is no underscore before the first character. -/
def snakeCase (name : String) : String :=
  match name.toList with
  | [] => ""
  | first :: rest =>
    .ofList ((if isAsciiUpper first then first.toLower else first) :: snakeChars rest)

end SqliteBridge.Binding
