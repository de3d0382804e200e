import SqliteBridge.Sql.Syntax

/-! Reading the first statement of an SQL text. The reader takes tokens from the
front and stops at the first one that no statement can have in its place: this token
gives the error, or the text is incomplete if no token is left. -/
namespace SqliteBridge.Sql

/-- The tokens ahead, and the parameters met so far: the largest number, and the
numbers of names. -/
structure Cursor where
  tokens : List Token
  largest : Nat
  names : List (String × Nat)

/-- A reader of statements of one text. -/
abbrev Grammar (α : Type) := ReaderT (List Char) (StateT Cursor (Except Fault)) α

namespace Grammar

def maxParameter : Nat := 32766

/-- The characters of the source between two positions. -/
def slice (start stop : Nat) : Grammar String := do
  let source ← read
  pure (.ofList ((source.drop start).take (stop - start)))

/-- The error of the next token. -/
def unexpected {α : Type} : Grammar α := do
  match (← get).tokens with
  | [] => throw (.error "incomplete input")
  | token :: _ =>
    let text ← slice token.start token.stop
    if token.lexeme = .illegal then throw (.error ("unrecognized token: \"" ++ text ++ "\""))
    else throw (.error ("near \"" ++ text ++ "\": syntax error"))

def peek : Grammar (Option Lexeme) := do
  pure ((← get).tokens.head?.map Token.lexeme)

def advance : Grammar Unit := modify fun cursor => { cursor with tokens := cursor.tokens.tail }

/-- The position of the next token, or of the end of the source. -/
def position : Grammar Nat := do
  match (← get).tokens with
  | token :: _ => pure token.start
  | [] => pure (← read).length

def upper (text : String) : String := text.map Char.toUpper

/-- The words that cannot be names unless they are quoted. -/
def reserved : List String :=
  ["ADD", "ALL", "ALTER", "AND", "AS", "AUTOINCREMENT", "BETWEEN", "CASE", "CHECK", "COLLATE",
    "COMMIT", "CONSTRAINT", "CREATE", "DEFAULT", "DEFERRABLE", "DELETE", "DISTINCT", "DROP",
    "ELSE", "ESCAPE", "EXISTS", "FOREIGN", "FROM", "GROUP", "HAVING", "IN", "INDEX", "INSERT",
    "INTO", "IS", "ISNULL", "JOIN", "LIMIT", "NOT", "NOTHING", "NOTNULL", "NULL", "ON", "OR",
    "ORDER", "PRIMARY", "REFERENCES", "RETURNING", "SELECT", "SET", "TABLE", "THEN", "TO",
    "TRANSACTION", "UNION", "UNIQUE", "UPDATE", "USING", "VALUES", "WHEN", "WHERE"]

def isKeyword (keyword : String) (lexeme : Option Lexeme) : Bool :=
  match lexeme with
  | some (.word text) => upper text == keyword
  | _ => false

/-- Whether the next token is the keyword, which is then taken. -/
def keyword? (keyword : String) : Grammar Bool := do
  if isKeyword keyword (← peek) then
    advance
    pure true
  else
    pure false

def keyword (keyword : String) : Grammar Unit := do
  if !(← keyword? keyword) then unexpected

def symbol? (text : String) : Grammar Bool := do
  if (← peek) = some (.symbol text) then
    advance
    pure true
  else
    pure false

def symbol (text : String) : Grammar Unit := do
  if !(← symbol? text) then unexpected

/-- A name that may stand at the next token. -/
def name? : Grammar (Option String) := do
  match ← peek with
  | some (.word text) =>
    if reserved.contains (upper text) then pure none
    else
      advance
      pure (some text)
  | some (.quotedName text _) => advance; pure (some text)
  | _ => pure none

def name : Grammar String := do
  match ← name? with
  | some text => pure text
  | none => unexpected

/-- Items with commas between them, at most `fuel`. -/
def commaList {α : Type} (item : Grammar α) : (fuel : Nat) → Grammar (List α)
  | 0 => unexpected
  | fuel + 1 => do
    let first ← item
    if ← symbol? "," then
      let rest ← commaList item fuel
      pure (first :: rest)
    else
      pure [first]

/-- As many turns as there are tokens, and one more. -/
def turns : Grammar Nat := do pure ((← get).tokens.length + 1)

/-- The affinity of a declared type. -/
def affinityOf (type : String) : Affinity :=
  let type := (upper type).toList
  let mentions (part : String) : Bool :=
    (List.range (type.length + 1)).any fun n => part.toList.isPrefixOf (type.drop n)
  if mentions "INT" then .integer
  else if mentions "CHAR" || mentions "CLOB" || mentions "TEXT" then .text
  else if mentions "BLOB" || type.isEmpty then .none
  else if mentions "REAL" || mentions "FLOA" || mentions "DOUB" then .real
  else .numeric

/-! ### Expressions -/

/-- The next number that is not in use for a parameter. -/
def nextParameter : Grammar Nat := do
  let cursor ← get
  if maxParameter ≤ cursor.largest then throw (.error "too many SQL variables")
  set { cursor with largest := cursor.largest + 1 }
  pure (cursor.largest + 1)

/-- The number of a parameter. A bare mark takes the next number, a mark with digits
the number they spell, and a name keeps the number of its first use. -/
def parameterNumber (text : String) : Grammar Nat := do
  match text.toList with
  | ['?'] => nextParameter
  | '?' :: digits =>
    let number := digitsValue digits
    if number = 0 ∨ maxParameter < number then
      throw (.error s!"variable number must be between ?1 and ?{maxParameter}")
    modify fun cursor => { cursor with largest := max cursor.largest number }
    pure number
  | _ =>
    match (← get).names.lookup text with
    | some number => pure number
    | none =>
      let number ← nextParameter
      modify fun cursor => { cursor with names := (text, number) :: cursor.names }
      pure number

/-- An integer literal; one past 64 bits is a real. -/
def integerLiteral (n : Int) : Datum :=
  if (clampInt64 n).toInt = n then .integer (.ofInt n) else .real (.ofInt n)

/-- The negation of an expression; that of a number literal is a literal. -/
def negation (operand : Grammar Expression) : Grammar Expression := do
  match ← peek with
  | some (.integer n) => advance; pure (.literal (integerLiteral (-(n : Int))))
  | some (.real x) => advance; pure (.literal (.real x.negate))
  | _ => .negate <$> operand

mutual

def primary : (fuel : Nat) → Grammar Expression
  | 0 => unexpected
  | fuel + 1 => do
    match ← peek with
    | some (.integer n) => advance; pure (.literal (integerLiteral n))
    | some (.real x) => advance; pure (.literal (.real x))
    | some (.text s) => advance; pure (.literal (.text s.toUTF8))
    | some (.blob bytes) => advance; pure (.literal (.blob bytes))
    | some (.parameter text) =>
      advance
      .parameter <$> parameterNumber text
    | some (.symbol "-") => advance; negation (primary fuel)
    | some (.symbol "+") => advance; primary fuel
    | some (.symbol "(") =>
      advance
      let inner ← expression fuel
      symbol ")"
      pure inner
    | some (.quotedName text double) => advance; pure (.name text double)
    | some (.word text) =>
      if upper text = "NULL" then
        advance
        pure (.literal .null)
      else if reserved.contains (upper text) then unexpected
      else
        advance
        if ← symbol? "(" then
          if upper text = "CAST" then
            let operand ← expression fuel
            keyword "AS"
            let type ← name
            symbol ")"
            pure (.cast operand (affinityOf type))
          else if ← symbol? "*" then
            symbol ")"
            pure (.callStar text)
          else if ← symbol? ")" then pure (.call text [])
          else
            let arguments ← commaList (expression fuel) (← turns)
            symbol ")"
            pure (.call text arguments)
        else pure (.name text false)
    | _ => unexpected

/-- An expression; the only infix operator is equality. -/
def expression : (fuel : Nat) → Grammar Expression
  | 0 => unexpected
  | fuel + 1 => do
    let left ← primary fuel
    if ← symbol? "=" then
      let right ← primary fuel
      pure (.equal left right)
    else
      pure left

end

/-- An expression of any depth that the tokens allow. -/
def anyExpression : Grammar Expression := do
  expression (2 * (← turns))

/-! ### Statements -/

/-- The source from a position up to the next token, without blanks at its end. A
comment there belongs to it. -/
def sourceFrom (start : Nat) : Grammar String := do
  let text ← slice start (← position)
  pure (.ofList (text.toList.reverse.dropWhile isSpace).reverse)

def resultColumn : Grammar ResultColumn := do
  if ← symbol? "*" then pure .star
  else
    let start ← position
    let e ← anyExpression
    let text ← sourceFrom start
    if ← keyword? "AS" then
      match ← peek with
      | some (.text s) => advance; pure (.expression e (some s) text)
      | _ => pure (.expression e (some (← name)) text)
    else
      match ← peek with
      | some (.text s) => advance; pure (.expression e (some s) text)
      | _ => pure (.expression e (← name?) text)

def condition : Grammar (Option Expression) := do
  if ← keyword? "WHERE" then some <$> anyExpression else pure none

/-- An expression to order by, and whether the order descends. -/
def orderTerm : Grammar (Expression × Bool) := do
  let e ← anyExpression
  if ← keyword? "DESC" then pure (e, true)
  else
    let _ ← keyword? "ASC"
    pure (e, false)

def ordering : Grammar (List (Expression × Bool)) := do
  if ← keyword? "ORDER" then
    keyword "BY"
    commaList orderTerm (← turns)
  else
    pure []

def select : Grammar Statement := do
  let columns ← commaList resultColumn (← turns)
  let table? ← if ← keyword? "FROM" then some <$> name else pure none
  let condition? ← condition
  pure (.select columns table? condition? (← ordering))

/-- The constraints of a column. -/
def constraints : (fuel : Nat) → ColumnDefinition → Grammar ColumnDefinition
  | 0, _ => unexpected
  | fuel + 1, column => do
    if ← keyword? "PRIMARY" then
      keyword "KEY"
      constraints fuel { column with primaryKey := true }
    else if ← keyword? "NOT" then
      keyword "NULL"
      constraints fuel { column with notNull := true }
    else if ← keyword? "UNIQUE" then
      constraints fuel { column with unique := true }
    else
      pure column

def columnDefinition : Grammar ColumnDefinition := do
  let column ← name
  let type := (← name?).getD ""
  constraints (← turns)
    ⟨column, affinityOf type, upper type == "INTEGER", false, false, false⟩

def createTable : Grammar Statement := do
  keyword "TABLE"
  let table ← name
  symbol "("
  let columns ← commaList columnDefinition (← turns)
  symbol ")"
  pure (.createTable table columns)

def valuesRow : Grammar (List Expression) := do
  symbol "("
  let row ← commaList anyExpression (← turns)
  symbol ")"
  pure row

def insert : Grammar Statement := do
  keyword "INTO"
  let table ← name
  let columns? ←
    if ← symbol? "(" then
      let columns ← commaList name (← turns)
      symbol ")"
      pure (some columns)
    else
      pure none
  keyword "VALUES"
  let rows ← commaList valuesRow (← turns)
  pure (.insert table columns? rows)

def assignment : Grammar (String × Expression) := do
  let column ← name
  symbol "="
  let e ← anyExpression
  pure (column, e)

def update : Grammar Statement := do
  let table ← name
  keyword "SET"
  let assignments ← commaList assignment (← turns)
  pure (.update table assignments (← condition))

def delete : Grammar Statement := do
  keyword "FROM"
  let table ← name
  pure (.delete table (← condition))

def statement : Grammar Statement := do
  if ← keyword? "SELECT" then select
  else if ← keyword? "CREATE" then createTable
  else if ← keyword? "INSERT" then insert
  else if ← keyword? "UPDATE" then update
  else if ← keyword? "DELETE" then delete
  else if ← keyword? "DROP" then
    keyword "TABLE"
    .dropTable <$> name
  else if ← keyword? "BEGIN" then
    let _ ← keyword? "TRANSACTION"
    pure .begin
  else if ← keyword? "COMMIT" then
    let _ ← keyword? "TRANSACTION"
    pure .commit
  else if ← keyword? "ROLLBACK" then
    let _ ← keyword? "TRANSACTION"
    pure .rollback
  else
    unexpected

/-- A statement up to its semicolon or the end of the source. -/
def wholeStatement : Grammar Prepared := do
  let statement ← statement
  let cursor ← get
  if !cursor.tokens.isEmpty then symbol ";"
  pure ⟨statement, cursor.largest⟩

end Grammar

/-- What a text starts with. -/
inductive Leading where
  /-- Nothing but blanks, comments and semicolons. -/
  | nothing
  /-- A statement, and the text after it. -/
  | statement (prepared : Prepared) (rest : List Char)
  | fault (fault : Fault)

/-- The first statement of a text. -/
def leadingStatement (source : List Char) : Leading :=
  match (Token.scan 0 source).dropWhile fun token => token.lexeme == .symbol ";" with
  | [] => .nothing
  | tokens =>
    match (Grammar.wholeStatement.run source).run ⟨tokens, 0, []⟩ with
    | .error fault => .fault fault
    | .ok (prepared, cursor) =>
      let stop := match cursor.tokens with
        | token :: _ => token.start
        | [] => source.length
      .statement prepared (source.drop stop)

end SqliteBridge.Sql
