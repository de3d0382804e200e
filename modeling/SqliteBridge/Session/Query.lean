import SqliteBridge.Session.Rows
import SqliteBridge.Session.Tokens

/-! Owners and queries. An owner of a connection or of a statement ends it on leaving
if that has not happened before. A query owns its statement: on every way out the
statement is finalized. -/
namespace SqliteBridge.Session

open Native (Library)

variable {library : Library} {α : Type} (conduct : Conduct library)

/-- The owner of a connection leaves it. -/
def leaveConnection (session : Session library) (id : Nat) : Session library :=
  let session := if session.isClosed id then session else (session.close conduct id).2
  session.releaseConnection conduct id

/-- The owner of a statement leaves it. -/
def leaveStatement (session : Session library) (id : StatementId) : Session library :=
  let session :=
    if session.isFinalized id then session else (session.finalize conduct id).2
  session.releaseStatement conduct id

/-- Binds values to the parameters from `number` on, up to the first error. -/
def bindFrom (session : Session library) (id : StatementId) :
    (number : Nat) → List Value → Except Error Unit × Session library
  | _, [] => (.ok (), session)
  | number, value :: values =>
    if Int32.maxValue.toInt < number then
      (.error (.invalidArgument "too many parameters"), session)
    else
      match session.bind conduct id (.ofNat number) (.value value) with
      | (.error error, session) => (.error error, session)
      | (.ok (), session) => session.bindFrom id (number + 1) values

/-- Binds values to the parameters in order. -/
def bindValues (session : Session library) (id : StatementId) (values : List Value) :
    Except Error Unit × Session library :=
  session.bindFrom conduct id 1 values

/-- What is done with the rows of a query. It may use the session in any way, and ends
with a result or is aborted. -/
abbrev Block (library : Library) (α : Type) :=
  Rows → Session library → Except Failure α × Session library

/-- Runs a block on the rows of a text with parameters. An error of the database library
while the statement is destroyed comes before the result of the block. -/
def query (session : Session library) (connection : Nat) (sql : String) (values : List Value)
    (block : Block library α) : Except Failure α × Session library :=
  match session.prepare conduct connection sql with
  | (.error error, session) => (.error (.refused error), session)
  | (.ok id, session) =>
    match session.bindValues conduct id values with
    | (.error error, session) =>
      (.error (.refused error), session.leaveStatement conduct id)
    | (.ok (), session) =>
      match block (.ofStatement id) session with
      | (.error (.aborted message), session) =>
        (.error (.aborted message), session.leaveStatement conduct id)
      | (result, session) =>
        match session.finalize conduct id with
        | (.error error, session) =>
          (.error (.refused error), session.releaseStatement conduct id)
        | (.ok (), session) => (result, session.releaseStatement conduct id)

end SqliteBridge.Session
