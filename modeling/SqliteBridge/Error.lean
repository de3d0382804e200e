import SqliteBridge.ResultCode

/-! The failures of an operation. An error is a value that the caller receives;
an aborted operation has no value at all and only a message, and it is turned
into an exception where control leaves the library. -/
namespace SqliteBridge

/-- A status other than success, with the message that the connection keeps for
it and, where one statement is to blame, its SQL. -/
structure StatusError where
  code : ResultCode
  message : String
  sql? : Option String
deriving DecidableEq

/-- A value that could not cross the boundary. -/
structure CrossingError where
  message : String
  source? : Option String
deriving DecidableEq

inductive Error where
  | status (cause : StatusError)
  | crossing (cause : CrossingError)
  | exhausted (capacity : Nat)
  | invalidArgument (message : String)
deriving DecidableEq

/-- How an operation ends when it gives no value. -/
inductive Failure where
  | refused (error : Error)
  | aborted (message : String)
deriving DecidableEq

namespace StatusError

def withSql (cause : StatusError) (sql : String) : StatusError := { cause with sql? := some sql }

/-- A call on something that is closed or finalized. -/
def misuse (message : String) : StatusError := ⟨.misuse, message, none⟩

def text (cause : StatusError) : String := s!"{cause.message} (code {cause.code.text})"

end StatusError

namespace Error

def misuse (message : String) : Error := .status (.misuse message)

def resultCode? : Error → Option ResultCode
  | status cause => some cause.code
  | _ => none

def sql? : Error → Option String
  | status cause => cause.sql?
  | _ => none

/-- The class of the exception that stands for the error on the other side of
the boundary. -/
def exceptionClass : Error → String
  | status _ => "com/birbit/sqlite3/SqliteException"
  | invalidArgument _ => "java/lang/IllegalArgumentException"
  | exhausted _ => "java/lang/OutOfMemoryError"
  | crossing _ => "java/lang/RuntimeException"

/-- The text of the wrapped cause, where there is one. -/
def innerText? : Error → Option String
  | status cause => some cause.text
  | crossing cause => some cause.message
  | _ => none

/-- The text of what caused the error, where that is known. -/
def sourceText? : Error → Option String
  | status cause => some cause.text
  | crossing cause => cause.source?
  | _ => none

def text : Error → String
  | status cause => cause.text
  | crossing cause => "Boundary error: " ++ cause.message
  | exhausted capacity => s!"Handle table exhausted ({capacity} slots)"
  | invalidArgument message => "Invalid argument: " ++ message

end Error

end SqliteBridge
