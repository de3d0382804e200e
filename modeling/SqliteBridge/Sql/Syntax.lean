import SqliteBridge.Sql.Token

/-! Statements as they are written, before their names are looked up. -/
namespace SqliteBridge.Sql

inductive Expression where
  | literal (d : Datum)
  | parameter (number : Nat)
  /-- A column, by name. A name in double quotes that is no column is a text. -/
  | name (text : String) (doubleQuoted : Bool)
  | call (function : String) (arguments : List Expression)
  /-- A call with a star for its arguments. -/
  | callStar (function : String)
  | cast (operand : Expression) (affinity : Affinity)
  | negate (operand : Expression)
  | equal (left right : Expression)

/-- One item of a select list. -/
inductive ResultColumn where
  | star
  /-- An expression with its name, and with its own text. -/
  | expression (e : Expression) (name? : Option String) (text : String)

structure ColumnDefinition where
  name : String
  affinity : Affinity
  /-- Whether the type is exactly `INTEGER`, which makes a primary key the row id. -/
  isIntegerType : Bool
  primaryKey : Bool
  notNull : Bool
  unique : Bool
deriving DecidableEq

inductive Statement where
  | select (columns : List ResultColumn) (table? : Option String) (condition? : Option Expression)
      (order : List (Expression × Bool))
  | createTable (name : String) (columns : List ColumnDefinition)
  | insert (table : String) (columns? : Option (List String)) (rows : List (List Expression))
  | update (table : String) (assignments : List (String × Expression))
      (condition? : Option Expression)
  | delete (table : String) (condition? : Option Expression)
  | dropTable (name : String)
  | begin
  | commit
  | rollback

/-- A statement with the number of its parameters. -/
structure Prepared where
  statement : Statement
  parameters : Nat

/-- Why a statement fails: a code, and a message if it is not that of the code. -/
structure Fault where
  code : ResultCode
  message? : Option String
deriving DecidableEq

namespace Fault

def error (message : String) : Fault := ⟨.error, some message⟩

/-- A fault with only its code. -/
def ofCode (code : ResultCode) : Fault := ⟨code, none⟩

/-- A fault of a running statement. Its message is its own, although it is the one of
the code. -/
def running (code : ResultCode) : Fault := ⟨code, some code.description⟩

def message (fault : Fault) : String := fault.message?.getD fault.code.description

end Fault

end SqliteBridge.Sql
