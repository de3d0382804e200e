import SqliteBridge.Binding.Pair

/-! The catalog: every operation of the library that gets a native method. -/
namespace SqliteBridge.Binding

structure Operation where
  name : String
  parameters : List LogicalType
  result : LogicalType
  fallible : Bool
deriving DecidableEq

namespace Operation

private def falling (name : String) (parameters : List LogicalType) (result : LogicalType) :
    Operation := ⟨name, parameters, result, true⟩

private def sure (name : String) (parameters : List LogicalType) (result : LogicalType) :
    Operation := ⟨name, parameters, result, false⟩

/-- The operations in the order of their native methods. -/
def catalog : List Operation := [
  falling "open_connection" [.string] .database,
  falling "close" [.database] .unit,
  falling "prepare_stmt" [.database, .string] .statement,
  falling "step" [.statement] .resultCode,
  falling "reset" [.statement] .unit,
  falling "finalize" [.statement] .unit,
  falling "clear_bindings" [.statement] .unit,
  falling "bind_parameter_count" [.statement] .int,
  falling "bind_int" [.statement, .int, .int] .unit,
  falling "bind_long" [.statement, .int, .long] .unit,
  falling "bind_double" [.statement, .int, .double] .unit,
  falling "bind_text" [.statement, .int, .string] .unit,
  falling "bind_blob" [.statement, .int, .byteArray] .unit,
  falling "bind_null" [.statement, .int] .unit,
  falling "column_count" [.statement] .int,
  falling "column_name" [.statement, .int] .nullableString,
  falling "column_type" [.statement, .int] .columnType,
  falling "column_is_null" [.statement, .int] .boolean,
  falling "column_int" [.statement, .int] .int,
  falling "column_long" [.statement, .int] .long,
  falling "column_double" [.statement, .int] .double,
  falling "column_text" [.statement, .int] .nullableString,
  falling "column_blob" [.statement, .int] .nullableByteArray,
  falling "error_msg" [.database] .nullableString,
  falling "error_code" [.database] .resultCode,
  sure "error_string" [.resultCode] .nullableString,
  falling "exec" [.database, .string] .unit,
  falling "changes" [.database] .int,
  falling "last_insert_rowid" [.database] .long,
  sure "sqlite_version" [] .string]

def signature (operation : Operation) : Signature LogicalType :=
  ⟨operation.name, operation.parameters, operation.result⟩

/-- The pair of an operation whose native method starts with `start`. -/
def pair (operation : Operation) (start : String) (registry : Registry) : Except Fault Pair :=
  Pair.derive registry operation.signature (methodName start operation.name) operation.fallible

/-- The pairs of operations in order; the first fault ends the list. -/
def pairs (operations : List Operation) (start : String) (registry : Registry) :
    Except Fault (List Pair) :=
  match operations with
  | [] => .ok []
  | operation :: rest => do
    let pair ← operation.pair start registry
    let more ← pairs rest start registry
    .ok (pair :: more)

end Operation

end SqliteBridge.Binding
