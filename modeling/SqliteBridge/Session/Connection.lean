import SqliteBridge.OpenConfig
import SqliteBridge.Session.Basic

/-! What can be asked of a connection: to open and to close, to run a text, to tell about
its last call and to take an authorizer. -/
namespace SqliteBridge.Session

open Native (Call Library)

variable {library : Library} (conduct : Conduct library)

/-! ### Opening and closing -/

/-- Opens a database and gives the number of the connection. What a failed attempt leaves
is closed at once. -/
def openWith (session : Session library) (config : OpenConfig) :
    Except Error Nat × Session library :=
  if holdsNul config.path then
    (.error (.invalidArgument "database path contains a NUL byte"), session)
  else
    let id := session.connections.length
    let (opening, session) := session.native conduct (.openV2 id config.path config.flags.code)
    if opening.code = 0 then
      let session :=
        if 0 < config.busyTimeout then
          (session.native conduct (.busyTimeout id config.busyMilliseconds)).2
        else session
      (.ok id, { session with
        connections := session.connections ++ [⟨config.path, false, none, [], true⟩] })
    else
      let session :=
        if opening.isHalfOpen then
          ((session.native conduct (.errorMessage id)).2.native conduct (.close id)).2
        else session
      (.error (.status
        ⟨⟨opening.code⟩, s!"could not open database at path  {config.path}", none⟩), session)

/-- Opens a database file, created if needed. -/
def openPath (session : Session library) (path : String) : Except Error Nat × Session library :=
  session.openWith conduct (.file path)

/-- Drops the callback at an address. -/
def dropCallback (session : Session library) : Option Nat → Session library
  | none => session
  | some address => { session with callbacks := session.callbacks.set address none }

/-- Closes a connection that has been marked as closed. The library lets go of the
authorizer before it is dropped. -/
def closeNative (session : Session library) (id : Nat) : Int32 × Session library :=
  let (_, session) := session.native conduct (.setAuthorizer id none)
  let (code, session) := session.native conduct (.closeV2 id)
  let authorizer? := (session.connection? id).bind ConnectionHandle.authorizer?
  (code, (session.updateConnection id fun connection =>
    { connection with authorizer? := none }).dropCallback authorizer?)

def markClosed (session : Session library) (id : Nat) : Session library :=
  session.updateConnection id fun connection => { connection with isClosed := true }

/-- Closes a connection and gives up its token. Statements that are left can still be
finalized. -/
def close (session : Session library) (id : Nat) : Except Error Unit × Session library :=
  if session.isClosed id then session.misuse "connection is already closed"
  else
    let (code, session) := (session.markClosed id).closeNative conduct id
    let session := { session with connectionTokens := session.connectionTokens.disposeToken id }
    if code = 0 then (.ok (), session)
    else
      (.error (.status ⟨⟨code⟩, (errorString library code).getD "close failed", none⟩), session)

/-! ### Running and telling -/

/-- The message of the last call. -/
def errorMessage (session : Session library) (id : Nat) :
    Except Error (Option String) × Session library :=
  session.whileOpen id fun _ =>
    let (bytes?, session) := session.native conduct (.errorMessage id)
    (.ok (ownedText bytes?), session)

/-- The code of the last call. -/
def errorCode (session : Session library) (id : Nat) :
    Except Error ResultCode × Session library :=
  session.whileOpen id fun _ =>
    let (code, session) := session.native conduct (.errorCode id)
    (.ok ⟨code⟩, session)

/-- Runs all statements of a text without reading rows. -/
def exec (session : Session library) (id : Nat) (sql : String) :
    Except Error Unit × Session library :=
  session.whileOpen id fun _ =>
    if holdsNul sql then (.error (.invalidArgument "SQL contains a NUL byte"), session)
    else
      let (execution, session) := session.native conduct (.exec id sql)
      if execution.code = 0 then (.ok (), session)
      else
        match execution.message? with
        | none => session.fail conduct id sql execution.code
        | some bytes =>
          (.error (.status ⟨⟨execution.code⟩, Text.ofBytes bytes, some sql⟩),
            (session.native conduct (.free id bytes)).2)

/-- How many rows the last change of rows has changed. -/
def changes (session : Session library) (id : Nat) : Except Error Int32 × Session library :=
  session.whileOpen id fun _ => answer (session.native conduct (.changes id))

/-- The row id of the last row that was inserted. -/
def lastInsertedId (session : Session library) (id : Nat) :
    Except Error Int64 × Session library :=
  session.whileOpen id fun _ => answer (session.native conduct (.lastInsertRowId id))

/-! ### Authorizers -/

/-- Gives a callback an address. -/
def box (session : Session library) : Option Callback → Option Nat × Session library
  | none => (none, session)
  | some callback =>
    (some session.callbacks.length,
      { session with callbacks := session.callbacks ++ [some callback] })

/-- Installs an authorizer or removes it. The library has let go of its predecessor
before that is dropped. -/
def setAuthorizer (session : Session library) (id : Nat) (callback? : Option Callback) :
    Except Error Unit × Session library :=
  session.whileOpen id fun connection =>
    let (address?, session) := session.box callback?
    let (code, session) := session.native conduct (.setAuthorizer id address?)
    if code = 0 then
      (.ok (), (session.updateConnection id fun connection =>
        { connection with authorizer? := address? }).dropCallback connection.authorizer?)
    else
      let (error, session) := session.lastError conduct id code
      (.error (.status error), session.dropCallback address?)

end SqliteBridge.Session
