import SqliteBridge.Authorization
import SqliteBridge.Handle.Population
import SqliteBridge.Session.Handle
import SqliteBridge.Text.Utf8

/-! A session: the state of the database library, the handles on the connections that
were opened, and the tokens by which connections and statements are known across the
boundary. What passes between the session and the library is put on record. -/
namespace SqliteBridge

open Native (Call Course Library Question)

/-- What passes between a session and the database library. -/
inductive Event where
  | enters (call : Call)
  | leaves (call : Call) (result : call.Result)
  /-- The library calls the callback at an address, where there is one. -/
  | asks (connection address : Nat) (callback? : Option Callback)
    (request : AuthorizationRequest)
  | answers (connection : Nat) (code : Int32)

structure Session (library : Library) where
  world : library.World
  /-- The newest first. -/
  log : List Event
  /-- In the order in which they were opened. -/
  connections : List ConnectionHandle
  /-- The callbacks that were given an address. An address is not used again, and is empty
  after its callback was dropped. -/
  callbacks : List (Option Callback)
  connectionTokens : Handle.Population Nat
  statementTokens : Handle.Population StatementId

/-- What callbacks do: they decide, and before that they may use the session in which
they are asked. The record tells what they were asked before, so a callback can have a
state of its own. -/
abbrev Conduct (library : Library) :=
  Callback → AuthorizationRequest → Session library → Answer × Session library

/-- Callbacks that answer by rules and leave the session alone. A callback without rules
is aborted. -/
def Conduct.byRules {library : Library} (rules : List AuthorizationRules) : Conduct library :=
  fun callback request session =>
    ((rules[callback]?.map fun rules => rules.answer request).getD .aborted, session)

namespace Session

variable {library : Library} {α : Type}

/-- A session with room for so many tokens of each kind. -/
def withCapacity (library : Library) (limit : Nat) : Session library :=
  ⟨library.start, [], [], [], .withCapacity limit, .withCapacity limit⟩

def empty (library : Library) : Session library := withCapacity library Handle.maxSlots

def connection? (session : Session library) (id : Nat) : Option ConnectionHandle :=
  session.connections[id]?

def statement? (session : Session library) (id : StatementId) : Option StatementHandle :=
  (session.connection? id.connection).bind fun connection => connection.statements[id.index]?

def updateConnection (session : Session library) (id : Nat)
    (update : ConnectionHandle → ConnectionHandle) : Session library :=
  { session with connections := session.connections.modify id update }

def updateStatement (session : Session library) (id : StatementId)
    (update : StatementHandle → StatementHandle) : Session library :=
  session.updateConnection id.connection fun connection =>
    { connection with statements := connection.statements.modify id.index update }

def setState (session : Session library) (id : StatementId) (state : StatementState) :
    Session library :=
  session.updateStatement id fun statement => { statement with state }

/-- A connection that was never opened counts as closed. -/
def isClosed (session : Session library) (id : Nat) : Bool :=
  match session.connection? id with
  | some connection => connection.isClosed
  | none => true

/-- A statement that was never made counts as finalized. -/
def isFinalized (session : Session library) (id : StatementId) : Bool :=
  match session.statement? id with
  | some statement => statement.state = .finalized
  | none => true

/-! ### Calls into the library -/

def record (session : Session library) (event : Event) : Session library :=
  { session with log := event :: session.log }

/-- What callbacks were asked so far, the oldest first. -/
def consultations (session : Session library) : List (Callback × AuthorizationRequest) :=
  session.log.reverse.filterMap fun event =>
    match event with
    | .asks _ _ (some callback) request => some (callback, request)
    | _ => none

/-- The callback at an address. -/
def callback? (session : Session library) (address : Nat) : Option Callback :=
  (session.callbacks[address]?).join

/-- The text of the bytes up to the one that ends it. Null is no text. -/
def ownedText (bytes? : Option ByteArray) : Option String := bytes?.map Text.ofBytes

def readQuestion (question : Question) : AuthorizationRequest :=
  ⟨question.action, ownedText question.first?, ownedText question.second?,
    ownedText question.third?, ownedText question.fourth?⟩

variable (conduct : Conduct library)

/-- Calls the callback at an address on behalf of the library. At an address without one
nothing is called. -/
def consult (connection address : Nat) (question : Question) (session : Session library) :
    Int32 × Session library :=
  let request := readQuestion question
  let callback? := session.callback? address
  let session := session.record (.asks connection address callback? request)
  match callback? with
  | none => (Verdict.deny.code, session)
  | some callback =>
    let (answer, session) := conduct callback request session
    (answer.verdict.code, session.record (.answers connection answer.verdict.code))

/-- Follows a call to its return. -/
def follow (call : Call) :
    Course library.World call.Result → Session library → call.Result × Session library
  | .returns result world, session =>
    (result, { session with world }.record (.leaves call result))
  | .asks address question world resume, session =>
    let (code, session) := { session with world }.consult conduct call.connection address question
    follow call (resume code session.world) session

/-- Calls a function of the library. -/
def native (session : Session library) (call : Call) : call.Result × Session library :=
  follow conduct call (library.run call session.world) (session.record (.enters call))

/-! ### Guards and errors -/

def misuse (session : Session library) (message : String) : Except Error α × Session library :=
  (.error (.misuse message), session)

/-- Runs an operation if the connection is open. -/
def whileOpen (session : Session library) (id : Nat)
    (operation : ConnectionHandle → Except Error α × Session library) :
    Except Error α × Session library :=
  match session.connection? id with
  | none => session.misuse "connection is closed"
  | some connection =>
    if connection.isClosed then session.misuse "connection is closed" else operation connection

/-- Runs an operation on a statement if it is not finalized and its connection is open. A
statement that was never made counts as finalized. -/
def onStatement (session : Session library) (id : StatementId)
    (operation : StatementHandle → Except Error α × Session library) :
    Except Error α × Session library :=
  match session.statement? id with
  | none => session.misuse "statement is finalized"
  | some statement =>
    if statement.state = .finalized then session.misuse "statement is finalized"
    else session.whileOpen id.connection fun _ => operation statement

/-- The description of a code, for the codes that have one. -/
def errorString (library : Library) (code : Int32) : Option String :=
  (library.errorString code).bind String.fromUTF8?

def version (library : Library) : String := (String.fromUTF8? library.version).getD "unknown"

/-- The error of a code, with the last message of the connection. A closed connection is
not asked. -/
def lastError (session : Session library) (id : Nat) (code : Int32) :
    StatusError × Session library :=
  let (message?, session) :=
    if session.isClosed id then (none, session)
    else
      let (bytes?, session) := session.native conduct (.errorMessage id)
      (ownedText bytes?, session)
  let message := (message?.orElse fun _ => errorString library code).getD (ResultCode.text ⟨code⟩)
  (⟨⟨code⟩, message, none⟩, session)

/-- Ends an operation on a text with the last error of the connection. -/
def fail (session : Session library) (id : Nat) (sql : String) (code : Int32) :
    Except Error α × Session library :=
  let (error, session) := session.lastError conduct id code
  (.error (.status (error.withSql sql)), session)

/-- Ends an operation on a text by its code. -/
def check (session : Session library) (id : Nat) (sql : String) (code : Int32) :
    Except Error Unit × Session library :=
  if code = 0 then (.ok (), session) else session.fail conduct id sql code

/-- Ends an operation with an answer that cannot fail. -/
def answer (answered : α × Session library) : Except Error α × Session library :=
  (.ok answered.1, answered.2)

end Session

end SqliteBridge
