import SqliteBridge.Native.Library
import SqliteBridge.ResultCode
import SqliteBridge.Sql.Connection

/-! A small library of this kind, for databases in memory and a part of SQL. A session
can run on it in the place of the real one. -/
namespace SqliteBridge.Sql

open Native (Call Course)

abbrev World := List Connection

namespace World

def connection (world : World) (id : Nat) : Connection := (world[id]?).getD default

/-- Puts a connection in its place, which is a new one after all others. -/
def put (world : World) (id : Nat) (connection : Connection) : World :=
  if id < world.length then world.set id connection else world ++ [connection]

end World

/-- What the callback of an authorizer returns, as a verdict. -/
def readVerdict (code : Int32) : Verdict :=
  if code = Verdict.allow.code then .allow
  else if code = Verdict.ignore.code then .ignore
  else .deny

def writeRequest (request : AuthorizationRequest) : Native.Question :=
  let bytes (s? : Option String) : Option ByteArray := s?.map String.toUTF8
  ⟨request.action, bytes request.first?, bytes request.second?, bytes request.third?,
    bytes request.fourth?⟩

variable {α : Type}

/-- Runs an inquiry of one connection. The other connections can change while it is asked. -/
def course (id : Nat) : Inquiry (α × Connection) → World → Course World α
  | .done (result, connection), world => .returns result (world.put id connection)
  | .asks address request resume, world =>
    .asks address (writeRequest request) world fun code world =>
      course id (resume (readVerdict code)) world

def returning (id : Nat) (world : World) (outcome : α × Connection) : Course World α :=
  .returns outcome.1 (world.put id outcome.2)

/-- A cell of the present row, and the connection after it was read. -/
def readColumn (world : World) (statement : StatementId) (asText : Bool) (column : Int32)
    (read : Datum → α) : Course World α :=
  let (d, connection) := (world.connection statement.connection).column statement.index asText
    column
  returning statement.connection world (read d, connection)

def bindDatum (world : World) (statement : StatementId) (number : Int32) (d : Datum) :
    Course World Int32 :=
  let (code, connection) := (world.connection statement.connection).bind statement.index number d
  returning statement.connection world (code.value, connection)

/-- A call of one statement that gives a code. -/
def coded (world : World) (statement : StatementId)
    (call : Connection → Nat → ResultCode × Connection) : Course World Int32 :=
  let (code, connection) := call (world.connection statement.connection) statement.index
  returning statement.connection world (code.value, connection)

def preparation (outcome : Connection.Preparation × Connection) :
    Native.Preparation × Connection :=
  (match outcome.1 with
    | .statement => ⟨0, true⟩
    | .nothing => ⟨0, false⟩
    | .fault fault => ⟨fault.code.value, false⟩,
    outcome.2)

def execution (outcome : Except Fault Unit × Connection) : Native.Execution × Connection :=
  (match outcome.1 with
    | .ok () => ⟨0, none⟩
    | .error fault => ⟨fault.code.value, some fault.message.toUTF8⟩,
    outcome.2)

def run (call : Call) (world : World) : Course World call.Result :=
  match call with
  | .openV2 id path flags =>
    let (code, connection) := Connection.openDatabase path flags
    .returns ⟨code.value, true⟩ (world.put id connection)
  | .close _ => .returns 0 world
  | .closeV2 _ => .returns 0 world
  | .errorMessage id => .returns (some (world.connection id).errorMessage.toUTF8) world
  | .errorCode id => .returns (world.connection id).errorCode.value world
  | .busyTimeout _ _ => .returns 0 world
  | .setAuthorizer id address? =>
    .returns 0 (world.put id ((world.connection id).setAuthorizer address?))
  | .prepareV2 statement sql =>
    course statement.connection
      (preparation <$> (world.connection statement.connection).prepare sql) world
  | .exec id sql => course id (execution <$> (world.connection id).exec sql) world
  | .free _ _ => .returns () world
  | .changes id => .returns (.ofNat (world.connection id).changes) world
  | .lastInsertRowId id => .returns (world.connection id).lastInsertedId world
  | .step statement =>
    course statement.connection
      ((fun outcome => (outcome.1.value, outcome.2)) <$>
        (world.connection statement.connection).step statement.index) world
  | .reset statement => coded world statement Connection.reset
  | .finalize statement => coded world statement Connection.finalize
  | .clearBindings statement => coded world statement Connection.clearBindings
  | .bindParameterCount statement =>
    .returns (.ofNat ((world.connection statement.connection).parameterCount statement.index))
      world
  | .bindNull statement number => bindDatum world statement number .null
  | .bindInt statement number n => bindDatum world statement number (.integer n.toInt64)
  | .bindInt64 statement number n => bindDatum world statement number (.integer n)
  | .bindDouble statement number x => bindDatum world statement number (.ofDouble x)
  | .bindText statement number bytes => bindDatum world statement number (.text bytes)
  | .bindBlob statement number bytes => bindDatum world statement number (.blob bytes)
  | .columnCount statement =>
    .returns
      (.ofNat ((world.connection statement.connection).columnNames statement.index).length) world
  | .columnName statement column =>
    let names := (world.connection statement.connection).columnNames statement.index
    .returns ((if column < 0 then none else names[column.toInt.toNat]?).map String.toUTF8) world
  | .columnType statement column =>
    readColumn world statement false column fun d => d.columnType.code
  | .columnInt statement column => readColumn world statement false column Datum.toInt32
  | .columnInt64 statement column => readColumn world statement false column Datum.toInt64
  | .columnDouble statement column => readColumn world statement false column Datum.toReal
  | .columnText statement column =>
    readColumn world statement true column fun d => if d.isNull then none else some d.bytes
  | .columnBlob statement column => readColumn world statement false column Datum.toBytes?
  | .columnBytes statement column =>
    readColumn world statement false column fun d => .ofNat d.bytes.size

def library : Native.Library where
  World := World
  start := []
  run := run
  isReturn_run := by
    intro call world silent
    cases call <;> first | rfl | contradiction
  errorString code := some (ResultCode.description ⟨code⟩).toUTF8
  version := version.toUTF8

end SqliteBridge.Sql
