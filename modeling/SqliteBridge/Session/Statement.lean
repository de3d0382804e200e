import SqliteBridge.Session.Basic
import SqliteBridge.Value

/-! What can be asked of a statement: to run, to take values for its parameters and to
read its columns. -/
namespace SqliteBridge

/-- A value for a parameter: in one of the types that can be given, or with its type. -/
inductive Input where
  | null
  | int (n : Int32)
  | long (n : Int64)
  | double (x : Binary64)
  | text (s : String)
  | blob (bytes : ByteArray)
  | value (v : Value)
deriving DecidableEq

/-- A value in its own type. -/
def Input.ofValue : Value → Input
  | .null => .null
  | .int n => .int n
  | .long n => .long n
  | .double x => .double x
  | .text s => .text s
  | .blob bytes => .blob bytes

/-- In which type a column is read. -/
inductive Reading where
  | columnType
  | isNull
  | int
  | long
  | double
  | text
  | blob
  | value
deriving DecidableEq

/-- What a column reads as. -/
inductive Cell where
  | columnType (kind : ColumnType)
  | isNull (b : Bool)
  | int (n : Int32)
  | long (n : Int64)
  | double (x : Binary64)
  /-- Null has no text. -/
  | text (s? : Option String)
  /-- Null and the empty blob have no bytes. -/
  | blob (bytes? : Option ByteArray)
  | value (v : Value)
deriving DecidableEq

namespace Reading

def name : Reading → String
  | columnType => "type"
  | isNull => "is_null"
  | int => "int"
  | long => "long"
  | double => "double"
  | text => "text"
  | blob => "blob"
  | value => "value"

def all : List Reading := [columnType, isNull, int, long, double, text, blob, value]

end Reading

namespace Session

open Native (Call Library)

variable {library : Library} (conduct : Conduct library)

/-! ### Making, running and ending -/

/-- Compiles the first statement of a text. -/
def prepare (session : Session library) (id : Nat) (sql : String) :
    Except Error StatementId × Session library :=
  session.whileOpen id fun connection =>
    if holdsNul sql then (.error (.invalidArgument "SQL contains a NUL byte"), session)
    else if maxByteCount < sql.utf8ByteSize then
      (.error (.invalidArgument "SQL is too long"), session)
    else
      let statement : StatementId := ⟨id, connection.statements.length⟩
      let (preparation, session) := session.native conduct (.prepareV2 statement sql)
      if preparation.code ≠ 0 then session.fail conduct id sql preparation.code
      else if preparation.isStatement then
        (.ok statement, session.updateConnection id fun connection =>
          { connection with statements := connection.statements ++ [⟨sql, .prepared, true⟩] })
      else
        (.error (.invalidArgument s!"SQL contains no statement: {Text.quoted sql}"), session)

/-- The state after a step, by its code. -/
def stateAfterStep (code : Int32) : StatementState :=
  if (ResultCode.mk code).primary = .row then .row
  else if (ResultCode.mk code).primary = .done then .done
  else .error

/-- Runs a statement to its next row or to its end. -/
def step (session : Session library) (id : StatementId) :
    Except Error ResultCode × Session library :=
  session.onStatement id fun statement =>
    let (code, session) := session.native conduct (.step id)
    let session := session.setState id (stateAfterStep code)
    if stateAfterStep code = .error then session.fail conduct id.connection statement.sql code
    else (.ok ⟨code⟩, session)

/-- Takes a statement back to its start. Its bindings stay. The error of a failed step
is not reported again. -/
def reset (session : Session library) (id : StatementId) : Except Error Unit × Session library :=
  session.onStatement id fun statement =>
    let (code, session) := session.native conduct (.reset id)
    let session := session.setState id .prepared
    if statement.state = .error then (.ok (), session)
    else session.check conduct id.connection statement.sql code

/-- Destroys a statement, also one of a closed connection, and gives up its token. It is
gone even if an error is reported; the error of a failed step is not reported again. -/
def finalize (session : Session library) (id : StatementId) :
    Except Error Unit × Session library :=
  match session.statement? id with
  | none => session.misuse "statement is already finalized"
  | some statement =>
    if statement.state = .finalized then session.misuse "statement is already finalized"
    else
      let (code, session) := (session.setState id .finalized).native conduct (.finalize id)
      let session := { session with statementTokens := session.statementTokens.disposeToken id }
      if statement.state = .error then (.ok (), session)
      else session.check conduct id.connection statement.sql code

/-! ### Parameters -/

/-- The code for a text or blob that is too large to be handed over. -/
def rangeCode : Int32 := 25

def bindText (session : Session library) (id : StatementId) (number : Int32) (s : String) :
    Int32 × Session library :=
  if maxByteCount < s.utf8ByteSize then (rangeCode, session)
  else session.native conduct (.bindText id number s.toUTF8)

def bindBlob (session : Session library) (id : StatementId) (number : Int32)
    (bytes : ByteArray) : Int32 × Session library :=
  if maxByteCount < bytes.size then (rangeCode, session)
  else session.native conduct (.bindBlob id number bytes)

/-- Hands a value over as its type demands. -/
def bindValue (session : Session library) (id : StatementId) (number : Int32) :
    Value → Int32 × Session library
  | .null => session.native conduct (.bindNull id number)
  | .int n => session.native conduct (.bindInt id number n)
  | .long n => session.native conduct (.bindInt64 id number n)
  | .double x => session.native conduct (.bindDouble id number x)
  | .text s => session.bindText conduct id number s
  | .blob bytes => session.bindBlob conduct id number bytes

def bindInput (session : Session library) (id : StatementId) (number : Int32) :
    Input → Int32 × Session library
  | .null => session.native conduct (.bindNull id number)
  | .int n => session.native conduct (.bindInt id number n)
  | .long n => session.native conduct (.bindInt64 id number n)
  | .double x => session.native conduct (.bindDouble id number x)
  | .text s => session.bindText conduct id number s
  | .blob bytes => session.bindBlob conduct id number bytes
  | .value v => session.bindValue conduct id number v

/-- Gives a value to the parameter of a number, counted from one. -/
def bind (session : Session library) (id : StatementId) (number : Int32) (input : Input) :
    Except Error Unit × Session library :=
  session.onStatement id fun statement =>
    let (code, session) := session.bindInput conduct id number input
    session.check conduct id.connection statement.sql code

def clearBindings (session : Session library) (id : StatementId) :
    Except Error Unit × Session library :=
  session.onStatement id fun statement =>
    let (code, session) := session.native conduct (.clearBindings id)
    session.check conduct id.connection statement.sql code

def parameterCount (session : Session library) (id : StatementId) :
    Except Error Int32 × Session library :=
  session.onStatement id fun _ => answer (session.native conduct (.bindParameterCount id))

/-! ### Columns -/

def columnCount (session : Session library) (id : StatementId) :
    Except Error Int32 × Session library :=
  session.onStatement id fun _ => answer (session.native conduct (.columnCount id))

/-- The name of a column, counted from zero. A name that is no text is none. -/
def columnName (session : Session library) (id : StatementId) (column : Int32) :
    Except Error (Option String) × Session library :=
  session.onStatement id fun _ =>
    let (bytes?, session) := session.native conduct (.columnName id column)
    (.ok (bytes?.bind String.fromUTF8?), session)

/-- The text of a column. Its length is asked for after the text, which the question can
change. -/
def readText (session : Session library) (id : StatementId) (column : Int32) :
    Option String × Session library :=
  let (memory?, session) := session.native conduct (.columnText id column)
  match memory? with
  | none => (none, session)
  | some memory =>
    let (length, session) := session.native conduct (.columnBytes id column)
    (some (Text.ofBytes (memory.extract 0 length.toInt.toNat)), session)

/-- The bytes of a column. -/
def readBlob (session : Session library) (id : StatementId) (column : Int32) :
    Option ByteArray × Session library :=
  let (memory?, session) := session.native conduct (.columnBlob id column)
  let (length, session) := session.native conduct (.columnBytes id column)
  match memory? with
  | none => (none, session)
  | some memory =>
    if length ≤ 0 then (none, session)
    else (some (memory.extract 0 length.toInt.toNat), session)

/-- An integer, in 32 bits where it fits. -/
def integerValue (n : Int64) : Value :=
  if n.toInt32.toInt64 = n then .int n.toInt32 else .long n

/-- A column by its storage class. -/
def readValue (session : Session library) (id : StatementId) (column : Int32) :
    Value × Session library :=
  let (code, session) := session.native conduct (.columnType id column)
  match ColumnType.ofCode code with
  | .integer =>
    let (n, session) := session.native conduct (.columnInt64 id column)
    (integerValue n, session)
  | .float =>
    let (x, session) := session.native conduct (.columnDouble id column)
    (.double x, session)
  | .text =>
    let (s?, session) := session.readText conduct id column
    (s?.elim .null .text, session)
  | .blob =>
    let (bytes?, session) := session.readBlob conduct id column
    (.blob (bytes?.getD .empty), session)
  | .null => (.null, session)

/-- A column in the type in which it is wanted. -/
def readCell (session : Session library) (id : StatementId) (column : Int32) :
    Reading → Cell × Session library
  | .columnType =>
    let (code, session) := session.native conduct (.columnType id column)
    (.columnType (.ofCode code), session)
  | .isNull =>
    let (code, session) := session.native conduct (.columnType id column)
    (.isNull (ColumnType.ofCode code = .null), session)
  | .int =>
    let (n, session) := session.native conduct (.columnInt id column)
    (.int n, session)
  | .long =>
    let (n, session) := session.native conduct (.columnInt64 id column)
    (.long n, session)
  | .double =>
    let (x, session) := session.native conduct (.columnDouble id column)
    (.double x, session)
  | .text =>
    let (s?, session) := session.readText conduct id column
    (.text s?, session)
  | .blob =>
    let (bytes?, session) := session.readBlob conduct id column
    (.blob bytes?, session)
  | .value =>
    let (v, session) := session.readValue conduct id column
    (.value v, session)

/-- A column of the present row, counted from zero. -/
def column (session : Session library) (id : StatementId) (reading : Reading) (column : Int32) :
    Except Error Cell × Session library :=
  session.onStatement id fun _ => answer (session.readCell conduct id column reading)

end Session

end SqliteBridge
