import SqliteBridge.Sql.Inquiry
import SqliteBridge.Sql.Relation

/-! Plans: statements whose names have been looked up. Planning asks the authorizer
about every action, in the order in which the statement mentions them; the first
refusal and the first unknown name end it. -/
namespace SqliteBridge.Sql

/-- An expression over the cells of one row. -/
inductive Term where
  | constant (d : Datum)
  | parameter (number : Nat)
  | cell (position : Nat)
  | rowId
  | absolute (operand : Term)
  | cast (operand : Term) (affinity : Affinity)
  | negate (operand : Term)
  /-- Equality of the operands in the class of an affinity. -/
  | equal (affinity : Affinity) (left right : Term)

/-- A value of a result row: of one table row, or of all of them. -/
inductive Output where
  | term (t : Term)
  | countRows
  | count (t : Term)
  | sum (t : Term)

structure Query where
  outputs : List Output
  names : List String
  table? : Option String
  condition? : Option Term
  order : List (Term × Bool)

inductive Plan where
  | query (q : Query)
  | createTable (name : String) (columns : List ColumnDefinition)
  /-- Rows to insert, each with the positions of the columns that it gives. -/
  | insert (table : String) (positions : List Nat) (rows : List (List Term))
  | update (table : String) (changes : List (Nat × Term)) (condition? : Option Term)
  | delete (table : String) (condition? : Option Term)
  | dropTable (name : String)
  | begin
  | commit
  | rollback
  /-- A statement that the authorizer lets pass without effect. -/
  | nothing

namespace Plan

/-- The names of the result columns. -/
def columnNames : Plan → List String
  | query q => q.names
  | _ => []

/-- Whether the plan depends on the schema, and is made again when that changes. -/
def usesSchema : Plan → Bool
  | query q => q.table?.isSome
  | begin => false
  | commit => false
  | rollback => false
  | nothing => false
  | _ => true

/-- Whether the plan reads a table while its rows are delivered. -/
def readsTable : Plan → Bool
  | query q => q.table?.isSome
  | _ => false

end Plan

/-- What planning has come to: the address of the authorizer, and whether a cell other
than the row id has been named. A cell that is ignored counts as named. -/
structure Consultations where
  authorizer? : Option Nat
  namesCell : Bool

abbrev Planning (α : Type) := ExceptT Fault (StateT Consultations Inquiry) α

namespace Planning

/-- The action codes of requests. -/
def createIndexAction : Int32 := 1
def createTableAction : Int32 := 2
def deleteAction : Int32 := 9
def dropTableAction : Int32 := 11
def insertAction : Int32 := 18
def readAction : Int32 := 20
def selectAction : Int32 := 21
def transactionAction : Int32 := 22
def updateAction : Int32 := 23
def functionAction : Int32 := 31

def mainDatabase : String := "main"

def schemaTable : String := "sqlite_master"

/-- Asks the authorizer; without one everything is allowed. -/
def ask (request : AuthorizationRequest) : Planning Verdict := do
  match (← get).authorizer? with
  | none => pure .allow
  | some address => monadLift (Inquiry.ask address request)

/-- Asks about an action; the flag tells whether to go on with it. -/
def permit (request : AuthorizationRequest) (refusal : Fault) : Planning Bool := do
  match ← ask request with
  | .allow => pure true
  | .ignore => pure false
  | .deny => throw refusal

def notAuthorized : Fault := ⟨.auth, some "not authorized"⟩

def onTable (action : Int32) (table : String) : AuthorizationRequest :=
  ⟨action, some table, none, some mainDatabase, none⟩

def onColumn (action : Int32) (table column : String) : AuthorizationRequest :=
  ⟨action, some table, some column, some mainDatabase, none⟩

def table (schema : Schema) (name : String) : Planning Relation :=
  match schema.find? name with
  | some relation => pure relation
  | none => throw (.error ("no such table: " ++ name))

/-- The names that stand for the row id in every table. -/
def isRowIdName (name : String) : Bool :=
  sameName name "rowid" || sameName name "oid" || sameName name "_rowid_"

/-- Asks about reading a column. -/
def permitRead (table column : String) : Planning Bool :=
  permit (onColumn readAction table column)
    ⟨.auth, some ("access to " ++ table ++ "." ++ column ++ " is prohibited")⟩

/-- A term that reads a column. An ignored column reads as null. -/
def readColumn (relation : Relation) (column : String) (term : Term) : Planning Term := do
  if ← permitRead relation.name column then pure term else pure (.constant .null)

def column (relation? : Option Relation) (text : String) (doubleQuoted : Bool) :
    Planning Term := do
  let unknown : Planning Term :=
    if doubleQuoted then pure (.constant (.text text.toUTF8))
    else throw (.error ("no such column: " ++ text))
  match relation? with
  | none => unknown
  | some relation =>
    match relation.column? text with
    | some position =>
      if relation.key? = some position then
        readColumn relation (relation.columnName position) .rowId
      else
        modify fun state => { state with namesCell := true }
        readColumn relation (relation.columnName position) (.cell position)
    | none =>
      if isRowIdName text then
        let name := (relation.key?.map relation.columnName).getD "ROWID"
        readColumn relation name .rowId
      else unknown

/-- The affinity of a term: that of a column, or of a cast. -/
def affinityOf (relation? : Option Relation) : Term → Affinity
  | .cell position =>
    match relation? with
    | some relation => relation.affinity position
    | none => .none
  | .rowId => .integer
  | .cast _ affinity => affinity
  | _ => .none

/-- The affinity in which two operands are compared. -/
def comparisonAffinity (left right : Affinity) : Affinity :=
  if left.isNumeric || right.isNumeric then .numeric
  else if left = .none then right
  else if right = .none then left
  else .none

/-- Asks about calling a function; a function that is ignored gives null. -/
def callFunction (name : String) : Planning Bool :=
  permit ⟨functionAction, none, some name, none, none⟩
    (.error ("not authorized to use function: " ++ name))

def wrongArguments {α : Type} (name : String) : Planning α :=
  throw (.error ("wrong number of arguments to function " ++ name ++ "()"))

/-- A function over all rows where only one row is at hand. -/
def misplaced (name : String) : Planning Term := do
  let _ ← callFunction name
  throw (.error ("misuse of aggregate function " ++ name ++ "()"))

def term (relation? : Option Relation) : Expression → Planning Term
  | .literal d => pure (.constant d)
  | .parameter number => pure (.parameter number)
  | .name text doubleQuoted => column relation? text doubleQuoted
  | .cast operand affinity => do
    let operand ← term relation? operand
    pure (.cast operand affinity)
  | .negate operand => .negate <$> term relation? operand
  | .equal left right => do
    let left ← term relation? left
    let right ← term relation? right
    pure (.equal (comparisonAffinity (affinityOf relation? left) (affinityOf relation? right))
      left right)
  | .callStar name =>
    if sameName name "count" || sameName name "sum" then
      misplaced name
    else if sameName name "abs" then wrongArguments name
    else throw (.error ("no such function: " ++ name))
  | .call name arguments => do
    if sameName name "count" || sameName name "sum" then
      misplaced name
    else if !sameName name "abs" then throw (.error ("no such function: " ++ name))
    else
      match arguments with
      | [operand] =>
        if ← callFunction "abs" then .absolute <$> term relation? operand
        else pure (.constant .null)
      | _ => wrongArguments name

/-- An item of a select list. Only here a function may be over all rows. -/
def output (relation? : Option Relation) (e : Expression) : Planning Output := do
  match e with
  | .callStar name =>
    if sameName name "count" then
      if ← callFunction "count" then pure .countRows else pure (.term (.constant .null))
    else if sameName name "sum" then wrongArguments name
    else .term <$> term relation? e
  | .call name arguments =>
    if sameName name "count" || sameName name "sum" then
      let isCount := sameName name "count"
      match arguments with
      | [] =>
        if !isCount then wrongArguments name
        else if ← callFunction "count" then pure .countRows
        else pure (.term (.constant .null))
      | [operand] =>
        if ← callFunction (if isCount then "count" else "sum") then
          let operand ← term relation? operand
          pure (if isCount then .count operand else .sum operand)
        else pure (.term (.constant .null))
      | _ => wrongArguments name
    else .term <$> term relation? e
  | _ => .term <$> term relation? e

/-- The name of a column without one of its own. A plain column has the name under
which its table declares it; any other expression has its text. -/
def outputName (relation? : Option Relation) (e : Expression) (text : String) : String :=
  match relation?, e with
  | some relation, .name column _ =>
    match relation.column? column with
    | some position => relation.columnName position
    | none =>
      if isRowIdName column then (relation.key?.map relation.columnName).getD "rowid" else text
  | _, _ => text

/-- An output with the name of its column. -/
structure NamedOutput where
  output : Output
  name : String
  /-- Whether the name was given by the statement or by a star. Rows can be ordered by
  such a name. -/
  isGiven : Bool

/-- The outputs of an item. -/
def resultColumn (relation? : Option Relation) : ResultColumn → Planning (List NamedOutput)
  | .star =>
    match relation? with
    | none => pure []
    | some relation =>
      relation.columns.mapM fun definition => do
        let t ← column relation? definition.name false
        pure ⟨.term t, definition.name, true⟩
  | .expression e name? text => do
    let o ← output relation? e
    pure [⟨o, name?.getD (outputName relation? e text), name?.isSome⟩]

/-- An ordinal in English. -/
def ordinal (n : Nat) : String :=
  let suffix :=
    if n % 100 / 10 = 1 then "th"
    else if n % 10 = 1 then "st"
    else if n % 10 = 2 then "nd"
    else if n % 10 = 3 then "rd"
    else "th"
  s!"{n}{suffix}"

/-- An output to order by. An output over all rows leaves one row, which has no order. -/
def NamedOutput.orderTerm (o : NamedOutput) : Term :=
  match o.output with
  | .term t => t
  | _ => .constant .null

/-- A term to order by: the number of an output, counted from one, a given name of an
output, or an expression over the table. -/
def orderTerm (relation? : Option Relation) (outputs : List NamedOutput) (number : Nat)
    (e : Expression) : Planning Term := do
  let outOfRange : Planning Term :=
    throw (.error (ordinal number ++ " ORDER BY term out of range - should be between 1 and "
      ++ toString outputs.length))
  match e with
  | .literal (.integer n) =>
    if n < 1 then outOfRange
    else
      match outputs[n.toInt.toNat - 1]? with
      | some o => pure o.orderTerm
      | none => outOfRange
  | .name text _ =>
    match outputs.find? fun o => o.isGiven && sameName o.name text with
    | some o => pure o.orderTerm
    | none => term relation? e
  | _ => term relation? e

def condition (relation? : Option Relation) : Option Expression → Planning (Option Term)
  | none => pure none
  | some e => some <$> term relation? e

/-- The largest number of columns of a result. -/
def maxColumns : Nat := 2000

/-- How many outputs an item stands for. -/
def columnWidth (relation? : Option Relation) : ResultColumn → Nat
  | .star => (relation?.map fun relation => relation.columns.length).getD 0
  | .expression _ _ _ => 1

/-- How many outputs the items of a selection stand for together. -/
def totalWidth (relation? : Option Relation) (columns : List ResultColumn) : Nat :=
  columns.foldr (fun column rest => columnWidth relation? column + rest) 0

def select (schema : Schema) (columns : List ResultColumn) (table? : Option String)
    (condition? : Option Expression) (order : List (Expression × Bool)) : Planning Plan := do
  if !(← permit ⟨selectAction, none, none, none, none⟩ notAuthorized) then return .nothing
  let relation? ← table?.mapM (table schema)
  -- A star is expanded before any name is looked up.
  if relation?.isNone && columns.any (fun column => column matches .star) then
    throw (.error "no tables specified")
  if maxColumns < totalWidth relation? columns then
    throw (.error "too many columns in result set")
  let outputs ← columns.mapM (resultColumn relation?)
  let condition? ← condition relation? condition?
  let outputs := outputs.flatten
  let order ← (order.zipIdx 1).mapM fun ((e, descending), number) => do
    let t ← orderTerm relation? outputs number e
    pure (t, descending)
  let q : Query :=
    ⟨outputs.map NamedOutput.output, outputs.map NamedOutput.name, relation?.map Relation.name,
      condition?, order⟩
  match relation? with
  | some relation =>
    if !(← get).namesCell then
      -- A table of which no value is taken is asked about under an empty column name.
      let _ ← permit ⟨readAction, some relation.name, some "", none, none⟩ notAuthorized
  | none => pure ()
  pure (.query q)

/-- The requests of putting a new table on record in the table that holds the schema. -/
def recordTable : Planning Unit := do
  for column in ["type", "name", "tbl_name", "rootpage", "sql"] do
    let _ ← permit (onColumn updateAction schemaTable column) notAuthorized
  let _ ← permitRead schemaTable "ROWID"

/-- The requests of the index that each unique column has. -/
def recordIndexes (relation : Relation) : Planning Unit := do
  for (column, number) in relation.uniqueColumns.zipIdx 1 do
    let index := s!"sqlite_autoindex_{relation.name}_{number}"
    let _ ← permit (onTable insertAction schemaTable) notAuthorized
    let _ ← permit (onColumn createIndexAction index relation.name) notAuthorized
    let _ ← permitRead relation.name column.name
    let _ ← permit (onTable insertAction schemaTable) notAuthorized

/-- The columns of a table, after those already checked, have different names, and one
of them at most is the primary key. -/
def checkColumns (table : String) :
    (checked : List ColumnDefinition) → List ColumnDefinition → Planning Unit
  | _, [] => pure ()
  | checked, column :: rest => do
    if checked.any fun other => sameName other.name column.name then
      throw (.error ("duplicate column name: " ++ column.name))
    if column.primaryKey && checked.any ColumnDefinition.primaryKey then
      throw (.error ("table \"" ++ table ++ "\" has more than one primary key"))
    checkColumns table (checked ++ [column]) rest

def createTable (schema : Schema) (name : String) (columns : List ColumnDefinition) :
    Planning Plan := do
  if !(← permit (onTable insertAction schemaTable) notAuthorized) then return .nothing
  if !(← permit (onTable createTableAction name) notAuthorized) then return .nothing
  if (schema.find? name).isSome then throw (.error ("table " ++ name ++ " already exists"))
  checkColumns name [] columns
  recordIndexes ⟨name, columns, []⟩
  recordTable
  pure (.createTable name columns)

def insert (schema : Schema) (name : String) (columns? : Option (List String))
    (rows : List (List Expression)) : Planning Plan := do
  let width := (rows.head?.map List.length).getD 0
  if rows.any fun row => row.length != width then
    throw (.error "all VALUES must have the same number of terms")
  let relation ← table schema name
  if !(← permit (onTable insertAction relation.name) notAuthorized) then return .nothing
  let positions ← match columns? with
    | none => pure (List.range relation.columns.length)
    | some names => names.mapM fun column =>
      match relation.column? column with
      | some position => pure position
      | none => throw (.error ("table " ++ name ++ " has no column named " ++ column))
  if width ≠ positions.length then
    match columns? with
    | none =>
      throw (.error (s!"table {name} has {relation.columns.length} columns "
        ++ s!"but {width} values were supplied"))
    | some _ => throw (.error s!"{width} values for {positions.length} columns")
  -- More rows than one are inserted as the result of a selection.
  let selected ←
    if rows.length < 2 then pure true
    else permit ⟨selectAction, none, none, none, none⟩ notAuthorized
  let rows ← rows.mapM fun row => row.mapM (term none)
  pure (.insert relation.name positions (if selected then rows else []))

/-- The changes of an update. A change that is ignored is left out. -/
def change (relation : Relation) (assignment : String × Expression) :
    Planning (Option (Nat × Term)) := do
  let t ← term (some relation) assignment.2
  match relation.column? assignment.1 with
  | none => throw (.error ("no such column: " ++ assignment.1))
  | some position =>
    let request := onColumn updateAction relation.name (relation.columnName position)
    if ← permit request notAuthorized then pure (some (position, t)) else pure none

def update (schema : Schema) (name : String) (assignments : List (String × Expression))
    (where? : Option Expression) : Planning Plan := do
  let relation ← table schema name
  let changes ← assignments.mapM (change relation)
  let condition? ← condition (some relation) where?
  pure (.update relation.name changes.reduceOption condition?)

def delete (schema : Schema) (name : String) (where? : Option Expression) : Planning Plan := do
  let relation ← table schema name
  let _ ← permit (onTable deleteAction relation.name) notAuthorized
  let condition? ← condition (some relation) where?
  pure (.delete relation.name condition?)

/-- The requests of taking a table and its indexes off the table that holds the schema. -/
def forgetTable (relation : Relation) : Planning Unit := do
  let _ ← permit (onTable deleteAction schemaTable) notAuthorized
  let _ ← permitRead schemaTable "tbl_name"
  let _ ← permitRead schemaTable "type"
  for _ in List.range (relation.uniqueColumns.length + 1) do
    let _ ← permit (onColumn updateAction schemaTable "rootpage") notAuthorized
    let _ ← permitRead schemaTable "rootpage"

def dropTable (schema : Schema) (name : String) : Planning Plan := do
  let relation ← table schema name
  if !(← permit (onTable deleteAction schemaTable) notAuthorized) then return .nothing
  if !(← permit (onTable dropTableAction relation.name) notAuthorized) then return .nothing
  if !(← permit (onTable deleteAction relation.name) notAuthorized) then return .nothing
  forgetTable relation
  pure (.dropTable relation.name)

def transaction (name : String) (plan : Plan) : Planning Plan := do
  if ← permit ⟨transactionAction, some name, none, none, none⟩ notAuthorized then pure plan
  else pure .nothing

/-- The plan of a statement on a schema. -/
def plan (schema : Schema) : Statement → Planning Plan
  | .select columns table? condition? order => select schema columns table? condition? order
  | .createTable name columns => createTable schema name columns
  | .insert table columns? rows => insert schema table columns? rows
  | .update table assignments condition? => update schema table assignments condition?
  | .delete table condition? => delete schema table condition?
  | .dropTable name => dropTable schema name
  | .begin => transaction "BEGIN" .begin
  | .commit => transaction "COMMIT" .commit
  | .rollback => transaction "ROLLBACK" .rollback

end Planning

end SqliteBridge.Sql
