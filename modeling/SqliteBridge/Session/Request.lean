import SqliteBridge.Session.Connection
import SqliteBridge.Session.Statement

/-! Requests: every operation of a session as a value. A request names its connection or
its statement, and `perform` carries it out. -/
namespace SqliteBridge.Session

open Native (Library)

inductive Request where
  | openWith (config : OpenConfig)
  | close (connection : Nat)
  | prepare (connection : Nat) (sql : String)
  | errorMessage (connection : Nat)
  | errorCode (connection : Nat)
  | exec (connection : Nat) (sql : String)
  | changes (connection : Nat)
  | lastInsertedId (connection : Nat)
  | setAuthorizer (connection : Nat) (callback? : Option Callback)
  | step (statement : StatementId)
  | reset (statement : StatementId)
  | finalize (statement : StatementId)
  | clearBindings (statement : StatementId)
  | parameterCount (statement : StatementId)
  | bind (statement : StatementId) (number : Int32) (input : Input)
  | columnCount (statement : StatementId)
  | columnName (statement : StatementId) (column : Int32)
  | column (statement : StatementId) (reading : Reading) (column : Int32)
  | describe (code : ResultCode)
  | version
deriving DecidableEq

/-- What a request is about. -/
inductive Target where
  | nothing
  | connection (id : Nat)
  | statement (id : StatementId)
deriving DecidableEq

def Request.target : Request → Target
  | openWith _ => .nothing
  | close id => .connection id
  | prepare id _ => .connection id
  | errorMessage id => .connection id
  | errorCode id => .connection id
  | exec id _ => .connection id
  | changes id => .connection id
  | lastInsertedId id => .connection id
  | setAuthorizer id _ => .connection id
  | step id => .statement id
  | reset id => .statement id
  | finalize id => .statement id
  | clearBindings id => .statement id
  | parameterCount id => .statement id
  | bind id _ _ => .statement id
  | columnCount id => .statement id
  | columnName id _ => .statement id
  | column id _ _ => .statement id
  | describe _ => .nothing
  | version => .nothing

inductive Reply where
  | nothing
  | connection (id : Nat)
  | statement (id : StatementId)
  | code (code : ResultCode)
  | int (n : Int32)
  | long (n : Int64)
  | text (s? : Option String)
  | cell (cell : Cell)
deriving DecidableEq

variable {library : Library} (conduct : Conduct library)

/-- What an operation gives, as a reply. -/
def replying {α : Type} (embed : α → Reply) (outcome : Except Error α × Session library) :
    Except Error Reply × Session library :=
  (outcome.1.map embed, outcome.2)

def perform (session : Session library) : Request → Except Error Reply × Session library
  | .openWith config => replying .connection (session.openWith conduct config)
  | .close id => replying (fun _ => .nothing) (session.close conduct id)
  | .prepare id sql => replying .statement (session.prepare conduct id sql)
  | .errorMessage id => replying .text (session.errorMessage conduct id)
  | .errorCode id => replying .code (session.errorCode conduct id)
  | .exec id sql => replying (fun _ => .nothing) (session.exec conduct id sql)
  | .changes id => replying .int (session.changes conduct id)
  | .lastInsertedId id => replying .long (session.lastInsertedId conduct id)
  | .setAuthorizer id callback? =>
    replying (fun _ => .nothing) (session.setAuthorizer conduct id callback?)
  | .step id => replying .code (session.step conduct id)
  | .reset id => replying (fun _ => .nothing) (session.reset conduct id)
  | .finalize id => replying (fun _ => .nothing) (session.finalize conduct id)
  | .clearBindings id => replying (fun _ => .nothing) (session.clearBindings conduct id)
  | .parameterCount id => replying .int (session.parameterCount conduct id)
  | .bind id number input => replying (fun _ => .nothing) (session.bind conduct id number input)
  | .columnCount id => replying .int (session.columnCount conduct id)
  | .columnName id column => replying .text (session.columnName conduct id column)
  | .column id reading column => replying .cell (session.column conduct id reading column)
  | .describe code => (.ok (.text (errorString library code.value)), session)
  | .version => (.ok (.text (some (version library))), session)

end SqliteBridge.Session
