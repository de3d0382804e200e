import SqliteBridge.Bytes
import SqliteBridge.Number.Binary64

/-! The calls into the database library, one for each of its functions that is used,
and what each of them returns. Connections and statements are pointers there. A number
stands for a pointer, as the blocks of a memory model do: it is given to the object that
a call makes, and it is taken again only after the object is gone. -/
namespace SqliteBridge

/-- A statement, by its connection and by its position among the statements that were
made there. -/
structure StatementId where
  connection : Nat
  index : Nat
deriving DecidableEq, Inhabited

namespace Native

/-- What becomes of an attempt to open a database. -/
structure Opening where
  code : Int32
  /-- Whether there is a connection although the attempt failed. -/
  isHalfOpen : Bool
deriving DecidableEq

/-- What becomes of a text that is compiled. -/
structure Preparation where
  code : Int32
  /-- Whether the text holds a statement. -/
  isStatement : Bool
deriving DecidableEq

/-- What becomes of a text that is run. -/
structure Execution where
  code : Int32
  /-- A message for the caller to keep and to free. -/
  message? : Option ByteArray
deriving DecidableEq

inductive Call where
  /-- The connection that is made gets the number. -/
  | openV2 (connection : Nat) (path : String) (flags : Int32)
  | close (connection : Nat)
  | closeV2 (connection : Nat)
  | errorMessage (connection : Nat)
  | errorCode (connection : Nat)
  | busyTimeout (connection : Nat) (milliseconds : Int32)
  /-- The callback gets the address back each time it is called. -/
  | setAuthorizer (connection : Nat) (address? : Option Nat)
  /-- The statement that is made gets the identity. -/
  | prepareV2 (statement : StatementId) (sql : String)
  | exec (connection : Nat) (sql : String)
  | free (connection : Nat) (message : ByteArray)
  | changes (connection : Nat)
  | lastInsertRowId (connection : Nat)
  | step (statement : StatementId)
  | reset (statement : StatementId)
  | finalize (statement : StatementId)
  | clearBindings (statement : StatementId)
  | bindParameterCount (statement : StatementId)
  | bindNull (statement : StatementId) (number : Int32)
  | bindInt (statement : StatementId) (number : Int32) (n : Int32)
  | bindInt64 (statement : StatementId) (number : Int32) (n : Int64)
  | bindDouble (statement : StatementId) (number : Int32) (x : Binary64)
  | bindText (statement : StatementId) (number : Int32) (bytes : ByteArray)
  | bindBlob (statement : StatementId) (number : Int32) (bytes : ByteArray)
  | columnCount (statement : StatementId)
  | columnName (statement : StatementId) (column : Int32)
  | columnType (statement : StatementId) (column : Int32)
  | columnInt (statement : StatementId) (column : Int32)
  | columnInt64 (statement : StatementId) (column : Int32)
  | columnDouble (statement : StatementId) (column : Int32)
  | columnText (statement : StatementId) (column : Int32)
  | columnBlob (statement : StatementId) (column : Int32)
  | columnBytes (statement : StatementId) (column : Int32)
deriving DecidableEq

namespace Call

/-- What a call returns. A text is the bytes before the one that ends it, or null; the
bytes of a column are those that can be read from its pointer on. -/
@[reducible]
def Result : Call → Type
  | openV2 _ _ _ => Opening
  | prepareV2 _ _ => Preparation
  | exec _ _ => Execution
  | free _ _ => Unit
  | errorMessage _ => Option ByteArray
  | lastInsertRowId _ => Int64
  | columnName _ _ => Option ByteArray
  | columnInt64 _ _ => Int64
  | columnDouble _ _ => Binary64
  | columnText _ _ => Option ByteArray
  | columnBlob _ _ => Option ByteArray
  | _ => Int32

/-- The connection that a call is about. -/
def connection : Call → Nat
  | openV2 id _ _ => id
  | close id => id
  | closeV2 id => id
  | errorMessage id => id
  | errorCode id => id
  | busyTimeout id _ => id
  | setAuthorizer id _ => id
  | exec id _ => id
  | free id _ => id
  | changes id => id
  | lastInsertRowId id => id
  | prepareV2 id _ => id.connection
  | step id => id.connection
  | reset id => id.connection
  | finalize id => id.connection
  | clearBindings id => id.connection
  | bindParameterCount id => id.connection
  | bindNull id _ => id.connection
  | bindInt id _ _ => id.connection
  | bindInt64 id _ _ => id.connection
  | bindDouble id _ _ => id.connection
  | bindText id _ _ => id.connection
  | bindBlob id _ _ => id.connection
  | columnCount id => id.connection
  | columnName id _ => id.connection
  | columnType id _ => id.connection
  | columnInt id _ => id.connection
  | columnInt64 id _ => id.connection
  | columnDouble id _ => id.connection
  | columnText id _ => id.connection
  | columnBlob id _ => id.connection
  | columnBytes id _ => id.connection

/-- Whether SQL may be compiled in the course of a call, also SQL of the library's own
that it runs when a statement starts or ends. -/
def compiles : Call → Bool
  | prepareV2 _ _ => true
  | exec _ _ => true
  | step _ => true
  | reset _ => true
  | finalize _ => true
  | _ => false

end Call

end Native

end SqliteBridge
