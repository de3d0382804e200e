/-! The five storage classes of a result column. -/
namespace SqliteBridge

inductive ColumnType where
  | integer
  | float
  | text
  | blob
  | null
deriving DecidableEq, Inhabited

namespace ColumnType

/-- The class of a type code; a code outside the vocabulary counts as null. -/
def ofCode (code : Int32) : ColumnType :=
  match code.toInt with
  | 1 => integer
  | 2 => float
  | 3 => text
  | 4 => blob
  | _ => null

def code : ColumnType → Int32
  | integer => 1
  | float => 2
  | text => 3
  | blob => 4
  | null => 5

/-- The name of the class in SQL. -/
def sqlName : ColumnType → String
  | integer => "INTEGER"
  | float => "REAL"
  | text => "TEXT"
  | blob => "BLOB"
  | null => "NULL"

/-- The name of the class as a serialized variant. -/
def variantName : ColumnType → String
  | integer => "Integer"
  | float => "Float"
  | text => "Text"
  | blob => "Blob"
  | null => "Null"

def all : List ColumnType := [integer, float, text, blob, null]

theorem ofCode_code (kind : ColumnType) : ofCode kind.code = kind := by
  cases kind <;> rfl

end ColumnType

end SqliteBridge
