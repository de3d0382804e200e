import SqliteBridge.Sql.Syntax

/-! Tables and their rows. The rows of a table are in the order of their row ids,
and a statement changes the tables as a whole or not at all. -/
namespace SqliteBridge.Sql

structure Row where
  id : Int64
  cells : List Datum
deriving DecidableEq

structure Relation where
  name : String
  columns : List ColumnDefinition
  rows : List Row
deriving DecidableEq

/-- Names are equal up to the case of ASCII letters. -/
def sameName (a b : String) : Bool := a.map Char.toLower == b.map Char.toLower

namespace Relation

/-- The position of the column that is the row id. -/
def key? (relation : Relation) : Option Nat :=
  relation.columns.findIdx? fun column => column.primaryKey && column.isIntegerType

def column? (relation : Relation) (name : String) : Option Nat :=
  relation.columns.findIdx? fun column => sameName column.name name

def columnName (relation : Relation) (position : Nat) : String :=
  (relation.columns[position]?.map ColumnDefinition.name).getD ""

def affinity (relation : Relation) (position : Nat) : Affinity :=
  (relation.columns[position]?.map ColumnDefinition.affinity).getD .none

/-- The id of a new row without one: one more than the largest. -/
def nextId (relation : Relation) : Int64 :=
  match relation.rows.getLast? with
  | some row => row.id + 1
  | none => 1

/-- Puts a row at the place of its id. -/
def insertRow (row : Row) : List Row → List Row
  | [] => [row]
  | other :: rest => if other.id < row.id then other :: insertRow row rest else row :: other :: rest

def failed (relation : Relation) (rule : String) (position : Nat) : Fault :=
  ⟨.constraint, some (rule ++ " constraint failed: " ++ relation.name ++ "."
    ++ relation.columnName position)⟩

/-- Whether a column may not hold equal values. The row id is looked after on its
own. -/
def isUnique (relation : Relation) (position : Nat) (column : ColumnDefinition) : Bool :=
  relation.key? != some position && (column.unique || column.primaryKey)

/-- The columns with their positions. -/
def numbered (relation : Relation) : List (Nat × ColumnDefinition) :=
  (List.range relation.columns.length).zip relation.columns

/-- The columns that may not hold equal values. -/
def uniqueColumns (relation : Relation) : List ColumnDefinition :=
  (relation.numbered.filter fun (position, column) => relation.isUnique position column).map
    Prod.snd

/-- Checks a row, whose id the caller has settled, against the constraints: nulls
first, then the row id, then the other unique columns. -/
def check (relation : Relation) (row : Row) : Except Fault Unit := do
  for (position, column) in relation.numbered do
    if column.notNull && relation.key? != some position
        && (row.cells[position]?.getD .null).isNull then
      throw (relation.failed "NOT NULL" position)
  if relation.rows.any fun other => other.id == row.id then
    match relation.key? with
    | some position => throw (relation.failed "UNIQUE" position)
    | none => throw ⟨.constraint, some ("UNIQUE constraint failed: " ++ relation.name ++ ".rowid")⟩
  for (position, column) in relation.numbered do
    if relation.isUnique position column then
      let cell := row.cells[position]?.getD .null
      if !cell.isNull && relation.rows.any fun other =>
          Datum.compare (other.cells[position]?.getD .null) cell == .eq then
        throw (relation.failed "UNIQUE" position)

/-- The cells in the classes that their columns prefer. -/
def prepare (relation : Relation) (cells : List Datum) : List Datum :=
  (relation.columns.zip cells).map fun (column, cell) => cell.withAffinity column.affinity

/-- The row id that the cells ask for; without a key column there is none, and null
leaves the choice open. -/
def requestedId (relation : Relation) (cells : List Datum) : Except Fault (Option Int64) :=
  match relation.key? with
  | none => .ok none
  | some position =>
    match cells[position]?.getD .null with
    | .null => .ok none
    | .integer n => .ok (some n)
    | _ => .error (.running .mismatch)

/-- Puts the row id into the key column. -/
def withKey (relation : Relation) (id : Int64) (cells : List Datum) : List Datum :=
  match relation.key? with
  | some position => cells.set position (.integer id)
  | none => cells

/-- Adds a row. Past the largest row id there is no other. -/
def insert (relation : Relation) (cells : List Datum) : Except Fault (Int64 × Relation) := do
  let cells := relation.prepare cells
  let id ← match ← relation.requestedId cells with
    | some id => pure id
    | none =>
      if relation.rows.any fun row => row.id == Int64.maxValue then throw (.running .full)
      pure relation.nextId
  let row : Row := ⟨id, relation.withKey id cells⟩
  relation.check row
  pure (id, { relation with rows := insertRow row relation.rows })

/-- Replaces the cells of a row, which keeps its id unless the key column changes. -/
def replace (relation : Relation) (row : Row) (cells : List Datum) : Except Fault Relation := do
  let cells := relation.prepare cells
  let id ← match relation.key? with
    | none => pure row.id
    | some _ =>
      match ← relation.requestedId cells with
      | some id => pure id
      | none => throw (.running .mismatch)
  let others := { relation with rows := relation.rows.filter fun other => other.id != row.id }
  let changed : Row := ⟨id, relation.withKey id cells⟩
  others.check changed
  pure { relation with rows := insertRow changed others.rows }

end Relation

/-- The tables of a database, with a number that no other schema of the connection
has. -/
structure Schema where
  version : Nat
  relations : List Relation
deriving DecidableEq

namespace Schema

def empty : Schema := ⟨0, []⟩

instance : Inhabited Schema := ⟨empty⟩

def find? (schema : Schema) (name : String) : Option Relation :=
  schema.relations.find? fun relation => sameName relation.name name

/-- Puts a table in the place of the one of its name. -/
def put (schema : Schema) (relation : Relation) : Schema :=
  { schema with
    relations := schema.relations.map fun other =>
      if sameName other.name relation.name then relation else other }

end Schema

end SqliteBridge.Sql
