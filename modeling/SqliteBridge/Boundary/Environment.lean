import SqliteBridge.Error

/-! The environment in which native code is called. A call that fails leaves an
exception pending there until the other side takes it; an exception that is already
pending is kept. -/
namespace SqliteBridge.Boundary

/-- An exception of the other side, with a code where its class takes one. -/
structure Exception where
  className : String
  code? : Option Int32
  message : String
deriving DecidableEq

/-- The class of exceptions for calls that were aborted. -/
def abortClass : String := "java/lang/IllegalStateException"

/-- The message of an abort. What aborts a call need not be a text. -/
def abortMessage : Option String → String
  | some message => message
  | none => "native code panicked"

namespace Exception

/-- A status keeps its code and its bare message apart; any other error is told by its
text. -/
def ofError : Error → Exception
  | .status cause => ⟨Error.exceptionClass (.status cause), some cause.code.value, cause.message⟩
  | error => ⟨error.exceptionClass, none, error.text⟩

def ofFailure : Failure → Exception
  | .refused error => ofError error
  | .aborted message => ⟨abortClass, none, message⟩

end Exception

structure Environment where
  pending? : Option Exception
deriving DecidableEq

namespace Environment

def empty : Environment := ⟨none⟩

instance : Inhabited Environment := ⟨empty⟩

/-- Leaves an exception pending, unless there is one. -/
def raise (environment : Environment) (exception : Exception) : Environment :=
  match environment.pending? with
  | some _ => environment
  | none => ⟨some exception⟩

def isPending (environment : Environment) : Bool := environment.pending?.isSome

/-- Takes the pending exception away. -/
def take (environment : Environment) : Option Exception × Environment :=
  (environment.pending?, empty)

/-- Ends a call: a failure becomes an exception, and the default is returned. -/
def conclude {α : Type} (environment : Environment) (default : α) :
    Except Failure α → α × Environment
  | .ok value => (value, environment)
  | .error failure => (default, environment.raise (.ofFailure failure))

end Environment

end SqliteBridge.Boundary
