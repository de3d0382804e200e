import SqliteBridge.Boundary.Crossing
import SqliteBridge.Session.Request

/-! Calls from the other side: one for each native method, with its arguments as they
arrive. The arguments are read in the order in which they are declared, and the first
one that cannot be read ends the call before anything else happens. -/
namespace SqliteBridge.Boundary

inductive Call where
  | openConnection (path : Option String)
  | close (connection : Int64)
  | prepareStatement (connection : Int64) (sql : Option String)
  | step (statement : Int64)
  | reset (statement : Int64)
  | finalize (statement : Int64)
  | clearBindings (statement : Int64)
  | parameterCount (statement : Int64)
  | bindInt (statement : Int64) (number : Int32) (n : Int32)
  | bindLong (statement : Int64) (number : Int32) (n : Int64)
  | bindDouble (statement : Int64) (number : Int32) (x : Binary64)
  | bindText (statement : Int64) (number : Int32) (s : Option String)
  | bindBlob (statement : Int64) (number : Int32) (bytes : Option ByteArray)
  | bindNull (statement : Int64) (number : Int32)
  | columnCount (statement : Int64)
  | columnName (statement : Int64) (column : Int32)
  | columnType (statement : Int64) (column : Int32)
  | columnIsNull (statement : Int64) (column : Int32)
  | columnInt (statement : Int64) (column : Int32)
  | columnLong (statement : Int64) (column : Int32)
  | columnDouble (statement : Int64) (column : Int32)
  | columnText (statement : Int64) (column : Int32)
  | columnBlob (statement : Int64) (column : Int32)
  | errorMessage (connection : Int64)
  | errorCode (connection : Int64)
  | errorString (code : Int32)
  | exec (connection : Int64) (sql : Option String)
  | changes (connection : Int64)
  | lastInsertedId (connection : Int64)
  | version

namespace Call

/-- The name of the operation in the catalog. -/
def name : Call → String
  | openConnection _ => "open_connection"
  | close _ => "close"
  | prepareStatement _ _ => "prepare_stmt"
  | step _ => "step"
  | reset _ => "reset"
  | finalize _ => "finalize"
  | clearBindings _ => "clear_bindings"
  | parameterCount _ => "bind_parameter_count"
  | bindInt _ _ _ => "bind_int"
  | bindLong _ _ _ => "bind_long"
  | bindDouble _ _ _ => "bind_double"
  | bindText _ _ _ => "bind_text"
  | bindBlob _ _ _ => "bind_blob"
  | bindNull _ _ => "bind_null"
  | columnCount _ => "column_count"
  | columnName _ _ => "column_name"
  | columnType _ _ => "column_type"
  | columnIsNull _ _ => "column_is_null"
  | columnInt _ _ => "column_int"
  | columnLong _ _ => "column_long"
  | columnDouble _ _ => "column_double"
  | columnText _ _ => "column_text"
  | columnBlob _ _ => "column_blob"
  | errorMessage _ => "error_msg"
  | errorCode _ => "error_code"
  | errorString _ => "error_string"
  | exec _ _ => "exec"
  | changes _ => "changes"
  | lastInsertedId _ => "last_insert_rowid"
  | version => "sqlite_version"

/-- The type of what the call returns. -/
def result : Call → Binding.BoundaryType
  | openConnection _ => .long
  | close _ => .void
  | prepareStatement _ _ => .long
  | step _ => .int
  | reset _ => .void
  | finalize _ => .void
  | clearBindings _ => .void
  | parameterCount _ => .int
  | bindInt _ _ _ => .void
  | bindLong _ _ _ => .void
  | bindDouble _ _ _ => .void
  | bindText _ _ _ => .void
  | bindBlob _ _ _ => .void
  | bindNull _ _ => .void
  | columnCount _ => .int
  | columnName _ _ => .string
  | columnType _ _ => .int
  | columnIsNull _ _ => .boolean
  | columnInt _ _ => .int
  | columnLong _ _ => .long
  | columnDouble _ _ => .double
  | columnText _ _ => .string
  | columnBlob _ _ => .byteArray
  | errorMessage _ => .string
  | errorCode _ => .int
  | errorString _ => .string
  | exec _ _ => .void
  | changes _ => .int
  | lastInsertedId _ => .long
  | version => .string

/-- The call of the operation of a name with the values that arrive. There is none if
the values do not have the types of the operation. -/
def ofArguments? (name : String) (arguments : List NativeValue) : Option Call :=
  match name, arguments with
  | "open_connection", [.string path] => some (openConnection path)
  | "close", [.long raw] => some (close raw)
  | "prepare_stmt", [.long raw, .string sql] => some (prepareStatement raw sql)
  | "step", [.long raw] => some (step raw)
  | "reset", [.long raw] => some (reset raw)
  | "finalize", [.long raw] => some (finalize raw)
  | "clear_bindings", [.long raw] => some (clearBindings raw)
  | "bind_parameter_count", [.long raw] => some (parameterCount raw)
  | "bind_int", [.long raw, .int number, .int n] => some (bindInt raw number n)
  | "bind_long", [.long raw, .int number, .long n] => some (bindLong raw number n)
  | "bind_double", [.long raw, .int number, .double x] => some (bindDouble raw number x)
  | "bind_text", [.long raw, .int number, .string s] => some (bindText raw number s)
  | "bind_blob", [.long raw, .int number, .byteArray bytes] => some (bindBlob raw number bytes)
  | "bind_null", [.long raw, .int number] => some (bindNull raw number)
  | "column_count", [.long raw] => some (columnCount raw)
  | "column_name", [.long raw, .int column] => some (columnName raw column)
  | "column_type", [.long raw, .int column] => some (columnType raw column)
  | "column_is_null", [.long raw, .int column] => some (columnIsNull raw column)
  | "column_int", [.long raw, .int column] => some (columnInt raw column)
  | "column_long", [.long raw, .int column] => some (columnLong raw column)
  | "column_double", [.long raw, .int column] => some (columnDouble raw column)
  | "column_text", [.long raw, .int column] => some (columnText raw column)
  | "column_blob", [.long raw, .int column] => some (columnBlob raw column)
  | "error_msg", [.long raw] => some (errorMessage raw)
  | "error_code", [.long raw] => some (errorCode raw)
  | "error_string", [.int code] => some (errorString code)
  | "exec", [.long raw, .string sql] => some (exec raw sql)
  | "changes", [.long raw] => some (changes raw)
  | "last_insert_rowid", [.long raw] => some (lastInsertedId raw)
  | "sqlite_version", [] => some version
  | _, _ => none

/-! ### Reading the arguments -/

variable {library : Native.Library}

def connection (session : Session library) (raw : Int64) : Except Failure Nat :=
  target session.connectionTokens.table raw

def statement (session : Session library) (raw : Int64) : Except Failure StatementId :=
  target session.statementTokens.table raw

def argument {α : Type} (read : Except Error α) : Except Failure α := read.mapError .refused

/-- What the call asks of the session. -/
def request (session : Session library) : Call → Except Failure Session.Request
  | openConnection path => do
    let path ← argument (requiredText path)
    .ok (.openWith (.file path))
  | close raw => do .ok (.close (← connection session raw))
  | prepareStatement raw sql => do
    let id ← connection session raw
    let sql ← argument (requiredText sql)
    .ok (.prepare id sql)
  | step raw => do .ok (.step (← statement session raw))
  | reset raw => do .ok (.reset (← statement session raw))
  | finalize raw => do .ok (.finalize (← statement session raw))
  | clearBindings raw => do .ok (.clearBindings (← statement session raw))
  | parameterCount raw => do .ok (.parameterCount (← statement session raw))
  | bindInt raw number n => do .ok (.bind (← statement session raw) number (.int n))
  | bindLong raw number n => do .ok (.bind (← statement session raw) number (.long n))
  | bindDouble raw number x => do .ok (.bind (← statement session raw) number (.double x))
  | bindText raw number s => do
    let id ← statement session raw
    let s ← argument (requiredText s)
    .ok (.bind id number (.text s))
  | bindBlob raw number bytes => do
    let id ← statement session raw
    let bytes ← argument (requiredBytes bytes)
    .ok (.bind id number (.blob bytes))
  | bindNull raw number => do .ok (.bind (← statement session raw) number .null)
  | columnCount raw => do .ok (.columnCount (← statement session raw))
  | columnName raw column => do .ok (.columnName (← statement session raw) column)
  | columnType raw column => do .ok (.column (← statement session raw) .columnType column)
  | columnIsNull raw column => do .ok (.column (← statement session raw) .isNull column)
  | columnInt raw column => do .ok (.column (← statement session raw) .int column)
  | columnLong raw column => do .ok (.column (← statement session raw) .long column)
  | columnDouble raw column => do .ok (.column (← statement session raw) .double column)
  | columnText raw column => do .ok (.column (← statement session raw) .text column)
  | columnBlob raw column => do .ok (.column (← statement session raw) .blob column)
  | errorMessage raw => do .ok (.errorMessage (← connection session raw))
  | errorCode raw => do .ok (.errorCode (← connection session raw))
  | errorString code => .ok (.describe ⟨code⟩)
  | exec raw sql => do
    let id ← connection session raw
    let sql ← argument (requiredText sql)
    .ok (.exec id sql)
  | changes raw => do .ok (.changes (← connection session raw))
  | lastInsertedId raw => do .ok (.lastInsertedId (← connection session raw))
  | version => .ok .version

end Call

end SqliteBridge.Boundary
