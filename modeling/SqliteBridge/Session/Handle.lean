import SqliteBridge.Error
import SqliteBridge.Native.Library
import SqliteBridge.Text.Quoted

/-! Handles on connections and on their statements, as the callers have them. -/
namespace SqliteBridge

/-- Where a statement stands in its life. -/
inductive StatementState where
  | prepared
  | row
  | done
  | error
  | finalized
deriving DecidableEq, Inhabited

namespace StatementState

def name : StatementState → String
  | prepared => "Prepared"
  | row => "Row"
  | done => "Done"
  | error => "Error"
  | finalized => "Finalized"

end StatementState

structure StatementHandle where
  sql : String
  state : StatementState
  /-- Whether a caller still has the handle. -/
  isHeld : Bool
deriving DecidableEq

namespace StatementHandle

/-- The form of a statement in diagnostics. -/
def diagnostic (statement : StatementHandle) : String :=
  s!"StmtRef \x7b sql: {Text.quoted statement.sql}, state: {statement.state.name}, .. \x7d"

end StatementHandle

structure ConnectionHandle where
  path : String
  isClosed : Bool
  /-- The address of the authorizer in the keeping of this handle. -/
  authorizer? : Option Nat
  statements : List StatementHandle
  /-- Whether a caller still has the handle. -/
  isHeld : Bool
deriving DecidableEq

namespace ConnectionHandle

instance : Inhabited ConnectionHandle := ⟨⟨"", true, none, [], false⟩⟩

/-- The form of a connection in diagnostics. -/
def diagnostic (connection : ConnectionHandle) : String :=
  s!"DbRef \x7b path: {Text.quoted connection.path}, closed: {connection.isClosed}, .. \x7d"

end ConnectionHandle

/-- Whether a text holds the character that ends texts in the database library. -/
def holdsNul (s : String) : Bool := s.toList.contains '\x00'

/-- The largest size in bytes of a text or blob for the database library. -/
def maxByteCount : Nat := 2147483647

end SqliteBridge
