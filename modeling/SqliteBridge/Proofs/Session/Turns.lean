import SqliteBridge.Proofs.Session.Edits
import SqliteBridge.Proofs.Session.Runs

/-! Turns. Everything that an act does to a session, and everything that callbacks do in the course
of it, is a sequence of turns: a call into the library is entered or left, the library asks, a
handle is edited. A turn says under which guard it is taken. -/
namespace SqliteBridge

open Native (Call Library)

namespace Native.Call

/-- The statement that a call is about. -/
def statement? : Call → Option StatementId
  | step id => some id
  | reset id => some id
  | finalize id => some id
  | clearBindings id => some id
  | bindParameterCount id => some id
  | bindNull id _ => some id
  | bindInt id _ _ => some id
  | bindInt64 id _ _ => some id
  | bindDouble id _ _ => some id
  | bindText id _ _ => some id
  | bindBlob id _ _ => some id
  | columnCount id => some id
  | columnName id _ => some id
  | columnType id _ => some id
  | columnInt id _ => some id
  | columnInt64 id _ => some id
  | columnDouble id _ => some id
  | columnText id _ => some id
  | columnBlob id _ => some id
  | columnBytes id _ => some id
  | _ => none

/-- Whether a call uses what there is: it opens and closes no connection, ends no statement and
gives the library nothing to keep. -/
def isUse : Call → Bool
  | openV2 _ _ _ => false
  | close _ => false
  | closeV2 _ => false
  | setAuthorizer _ _ => false
  | finalize _ => false
  | _ => true

/-- Whether nothing but the library and the record changes when a call returns. -/
def LeavesHandles : (call : Call) → call.Result → Prop
  | openV2 _ _ _, _ => False
  | close _, _ => False
  | closeV2 _, _ => False
  | setAuthorizer _ _, _ => False
  | step _, _ => False
  | reset _, _ => False
  | prepareV2 _ _, preparation => ¬(preparation.code = 0 ∧ preparation.isStatement = true)
  | _, _ => True

theorem statement?_connection {call : Call} {id : StatementId} (named : call.statement? = some id) :
    call.connection = id.connection := by
  cases call <;> simp only [statement?, Option.some.injEq, reduceCtorEq] at named <;>
    subst named <;> rfl

theorem leavesHandles_of_isUse {call : Call} (isUse : call.isUse = true)
    (silent : call.compiles = false) (result : call.Result) : call.LeavesHandles result := by
  cases call <;> trivial

end Native.Call

namespace Session

variable {library : Library}

/-- The guard of a call that uses a connection or a statement. -/
structure CanEnter (session : Session library) (call : Call) : Prop where
  isUse : call.isUse = true
  isOpen : session.isClosed call.connection = false
  isLive : ∀ id, call.statement? = some id → session.isFinalized id = false
  /-- The number of a new statement has not been taken. -/
  isFresh : ∀ id sql, call = .prepareV2 id sql → session.statement? id = none

/-- The guard of a new state of a statement. -/
structure CanRun (session : Session library) (id : StatementId) : Prop where
  isLive : session.isFinalized id = false
  isOpen : session.isClosed id.connection = false

def addStatement (session : Session library) (id : StatementId) (sql : String) : Session library :=
  session.updateConnection id.connection fun connection =>
    { connection with statements := connection.statements ++ [⟨sql, .prepared, true⟩] }

def addConnection (session : Session library) (path : String) : Session library :=
  { session with connections := session.connections ++ [⟨path, false, none, [], true⟩] }

def setAddress (session : Session library) (id : Nat) (address? : Option Nat) : Session library :=
  session.updateConnection id fun connection => { connection with authorizer? := address? }

/-- The address of the authorizer that a connection keeps. -/
def address? (session : Session library) (id : Nat) : Option Nat :=
  (session.connection? id).bind ConnectionHandle.authorizer?

variable (motion : Motion library) (allowed : Act → Prop)

/-- Whether acts about a connection are allowed. -/
def Touched (id : Nat) : Prop := ∃ act, allowed act ∧ act.connection? = some id

/-- Whether a connection may be opened. -/
def Opened : Prop := ∃ config, allowed (.perform (.openWith config))

/-- The calls of an attempt to open a database, which gets the number of the next connection. -/
inductive Attempt (session : Session library) (path : String) (flags : Int32) :
    Native.Opening → Session library → Prop where
  | plain (opening : Native.Opening) (world : library.World)
    (settled : opening.code = 0 ∨ opening.isHalfOpen = false) :
    Attempt session path flags opening
      (session.called (.openV2 session.connections.length path flags) opening world)
  | waiting (opening : Native.Opening) (world : library.World) (success : opening.code = 0)
    (time code : Int32) (later : library.World) :
    Attempt session path flags opening
      ((session.called (.openV2 session.connections.length path flags) opening world).called
        (.busyTimeout session.connections.length time) code later)
  | halfOpen (opening : Native.Opening) (world : library.World) (failure : opening.code ≠ 0)
    (isHalfOpen : opening.isHalfOpen = true) (bytes? : Option ByteArray) (told : library.World)
    (code : Int32) (later : library.World) :
    Attempt session path flags opening
      (((session.called (.openV2 session.connections.length path flags) opening world).called
        (.errorMessage session.connections.length) bytes? told).called
          (.close session.connections.length) code later)

inductive Turn : Session library → Session library → Prop where
  | enters {session : Session library} (call : Call) (touched : Touched allowed call.connection)
    (guard : session.CanEnter call) : Turn session (session.record (.enters call))
  | leaves {session : Session library} (call : Call) (result : call.Result) (world : library.World)
    (touched : Touched allowed call.connection) (leaves : call.LeavesHandles result)
    (moved : motion.moves call.connection session.world world) :
    Turn session (session.returned call result world)
  | asks {session : Session library} (connection address : Nat) (request : AuthorizationRequest)
    (world : library.World) (touched : Touched allowed connection)
    (moved : motion.moves connection session.world world) :
    Turn session
      ({ session with world }.record
        (.asks connection address (session.callback? address) request))
  | answers {session : Session library} (connection : Nat) (code : Int32)
    (touched : Touched allowed connection) :
    Turn session (session.record (.answers connection code))
  | steps {session : Session library} (id : StatementId) (code : Int32) (world : library.World)
    (touched : Touched allowed id.connection) (guard : session.CanRun id)
    (moved : motion.moves id.connection session.world world) :
    Turn session ((session.returned (.step id) code world).setState id (stateAfterStep code))
  | resets {session : Session library} (id : StatementId) (code : Int32) (world : library.World)
    (touched : Touched allowed id.connection) (guard : session.CanRun id)
    (moved : motion.moves id.connection session.world world) :
    Turn session ((session.returned (.reset id) code world).setState id .prepared)
  | prepares {session : Session library} {connection : ConnectionHandle} (id : StatementId)
    (sql : String) (preparation : Native.Preparation) (world : library.World)
    (touched : Touched allowed id.connection)
    (found : session.connection? id.connection = some connection)
    (isOpen : connection.isClosed = false) (next : id.index = connection.statements.length)
    (success : preparation.code = 0 ∧ preparation.isStatement = true)
    (moved : motion.moves id.connection session.world world) :
    Turn session ((session.returned (.prepareV2 id sql) preparation world).addStatement id sql)
  | destroys {session : Session library} (id : StatementId) (ends : ∃ act, allowed act ∧ act.Ends id)
    (isLive : session.isFinalized id = false) :
    Turn session ((session.setState id .finalized).record (.enters (.finalize id)))
  | opens {session made : Session library} (path : String) (flags : Int32)
    (opening : Native.Opening) (opened : Opened allowed)
    (attempt : session.Attempt path flags opening made) (success : opening.code = 0)
    (moved : motion.moves session.connections.length session.world made.world) :
    Turn session (made.addConnection path)
  | fails {session made : Session library} (path : String) (flags : Int32)
    (opening : Native.Opening) (opened : Opened allowed)
    (attempt : session.Attempt path flags opening made) (failure : opening.code ≠ 0)
    (moved : motion.moves session.connections.length session.world made.world) :
    Turn session made
  | closes {session : Session library} (id : Nat) (unset code : Int32) (between world : library.World)
    (touched : Touched allowed id) (isOpen : session.isClosed id = false)
    (moved : motion.moves id session.world world) :
    Turn session
      (((((session.markClosed id).called (.setAuthorizer id none) unset between).called (.closeV2 id)
        code world).setAddress id none).dropCallback (session.address? id))
  | authorizes {session : Session library} (id : Nat) (callback? : Option Callback)
    (world : library.World) (sets : allowed (.perform (.setAuthorizer id callback?)))
    (isOpen : session.isClosed id = false)
    (moved : motion.moves id session.world world) :
    Turn session
      ((((session.box callback?).2.called (.setAuthorizer id (session.box callback?).1) (0 : Int32)
        world).setAddress id (session.box callback?).1).dropCallback (session.address? id))
  /-- The callback is dropped after the message was asked for. -/
  | declines {session : Session library} (id : Nat) (callback? : Option Callback) (code : Int32)
    (bytes? : Option ByteArray) (between world : library.World) (touched : Touched allowed id)
    (isOpen : session.isClosed id = false) (failure : code ≠ 0)
    (moved : motion.moves id session.world world) :
    Turn session
      ((((session.box callback?).2.called (.setAuthorizer id (session.box callback?).1) code
        between).called (.errorMessage id) bytes? world).dropCallback (session.box callback?).1)
  | connectionToken {session : Session library} (id : Nat) (issues : allowed (.connectionToken id)) :
    Turn session (session.connectionToken id).2
  | statementToken {session : Session library} (id : StatementId)
    (issues : allowed (.statementToken id)) : Turn session (session.statementToken id).2
  | disposesConnection {session : Session library} (id : Nat) (touched : Touched allowed id)
    (isClosed : session.isClosed id = true) :
    Turn session { session with connectionTokens := session.connectionTokens.disposeToken id }
  | disposesStatement {session : Session library} (id : StatementId)
    (touched : Touched allowed id.connection) (isFinalized : session.isFinalized id = true) :
    Turn session { session with statementTokens := session.statementTokens.disposeToken id }
  | releasesConnection {session : Session library} (id : Nat) (touched : Touched allowed id) :
    Turn session (session.updateConnection id fun connection => { connection with isHeld := false })
  | releasesStatement {session : Session library} (id : StatementId)
    (touched : Touched allowed id.connection) :
    Turn session (session.updateStatement id fun statement => { statement with isHeld := false })

abbrev Path : Session library → Session library → Prop :=
  Relation.ReflTransGen (Turn motion allowed)

namespace Attempt

variable {session made : Session library} {path : String} {flags : Int32}
  {opening : Native.Opening}

theorem connections (attempt : session.Attempt path flags opening made) :
    made.connections = session.connections := by cases attempt <;> rfl

theorem callbacks (attempt : session.Attempt path flags opening made) :
    made.callbacks = session.callbacks := by cases attempt <;> rfl

theorem connectionTokens (attempt : session.Attempt path flags opening made) :
    made.connectionTokens = session.connectionTokens := by cases attempt <;> rfl

theorem statementTokens (attempt : session.Attempt path flags opening made) :
    made.statementTokens = session.statementTokens := by cases attempt <;> rfl

end Attempt

end Session

end SqliteBridge
