import SqliteBridge.Session.Connection
import SqliteBridge.Session.Statement

/-! Tokens and drops. A handle that no caller has and that has no token is dropped: a
statement is then finalized, and a connection is closed once none of its statements is
left. -/
namespace SqliteBridge.Session

open Native (Library)

variable {library : Library} (conduct : Conduct library)

/-- The token of a connection, created when it is first asked for. -/
def connectionToken (session : Session library) (id : Nat) :
    Except Failure Handle.Token × Session library :=
  let (result, connectionTokens) := session.connectionTokens.toToken id
  (result, { session with connectionTokens })

/-- The token of a statement, created when it is first asked for. -/
def statementToken (session : Session library) (id : StatementId) :
    Except Failure Handle.Token × Session library :=
  let (result, statementTokens) := session.statementTokens.toToken id
  (result, { session with statementTokens })

def hasConnectionToken (session : Session library) (id : Nat) : Bool :=
  (session.connectionTokens.reference id).token?.isSome

def hasStatementToken (session : Session library) (id : StatementId) : Bool :=
  (session.statementTokens.reference id).token?.isSome

/-- Whether a statement can still be reached. -/
def isStatementReachable (session : Session library) (id : StatementId) : Bool :=
  match session.statement? id with
  | none => false
  | some statement => statement.isHeld || session.hasStatementToken id

/-- Whether a connection can still be reached, be it through a statement. -/
def isConnectionReachable (session : Session library) (id : Nat) : Bool :=
  match session.connection? id with
  | none => false
  | some connection =>
    connection.isHeld || session.hasConnectionToken id ||
      (List.range connection.statements.length).any fun index =>
        session.isStatementReachable ⟨id, index⟩

/-- Drops a connection if it cannot be reached any more. -/
def settleConnection (session : Session library) (id : Nat) : Session library :=
  if session.isConnectionReachable id || session.isClosed id then session
  else ((session.markClosed id).closeNative conduct id).2

/-- Destroys a statement that is dropped before it was finalized. -/
def dropStatement (session : Session library) (id : StatementId) : Session library :=
  if session.isFinalized id then session
  else ((session.setState id .finalized).native conduct (.finalize id)).2

/-- Drops a statement if it cannot be reached any more, and with it its connection if
that cannot be reached either. -/
def settleStatement (session : Session library) (id : StatementId) : Session library :=
  if session.isStatementReachable id then session
  else (session.dropStatement conduct id).settleConnection conduct id.connection

/-- The caller lets go of a connection. -/
def releaseConnection (session : Session library) (id : Nat) : Session library :=
  (session.updateConnection id fun connection =>
    { connection with isHeld := false }).settleConnection conduct id

/-- The caller lets go of a statement. -/
def releaseStatement (session : Session library) (id : StatementId) : Session library :=
  (session.updateStatement id fun statement =>
    { statement with isHeld := false }).settleStatement conduct id

end SqliteBridge.Session
