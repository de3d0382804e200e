import SqliteBridge.Json.Composite

/-! The types that an operation can have on the side of the library. -/
namespace SqliteBridge.Binding

inductive LogicalType where
  | int
  | long
  | double
  | boolean
  | string
  | nullableString
  | byteArray
  | nullableByteArray
  | database
  | statement
  | resultCode
  | columnType
  | unit
deriving DecidableEq, Inhabited

namespace LogicalType

def all : List LogicalType :=
  [int, long, double, boolean, string, nullableString, byteArray, nullableByteArray, database,
    statement, resultCode, columnType, unit]

/-- How the type is spelled in Rust. -/
def spelling : LogicalType → String
  | int => "i32"
  | long => "i64"
  | double => "f64"
  | boolean => "bool"
  | string => "String"
  | nullableString => "Option<String>"
  | byteArray => "Vec<u8>"
  | nullableByteArray => "Option<Vec<u8>>"
  | database => "DbRef"
  | statement => "StmtRef"
  | resultCode => "ResultCode"
  | columnType => "ColumnType"
  | unit => "()"

/-- The name of the type in serialized data. -/
def variantName : LogicalType → String
  | int => "Int"
  | long => "Long"
  | double => "Double"
  | boolean => "Boolean"
  | string => "String"
  | nullableString => "NullableString"
  | byteArray => "ByteArray"
  | nullableByteArray => "NullableByteArray"
  | database => "DbRef"
  | statement => "StmtRef"
  | resultCode => "ResultCode"
  | columnType => "ColumnType"
  | unit => "Unit"

def readJson : Json.Reader LogicalType :=
  Json.Variant.read (all.map fun type => .bare type.variantName type)

def writeJson (type : LogicalType) : List Char := Json.writeString type.variantName

end LogicalType

end SqliteBridge.Binding
