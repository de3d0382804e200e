import SqliteBridge.Binding.BoundaryType
import SqliteBridge.Bytes
import SqliteBridge.Handle.Table
import SqliteBridge.Number.Binary64
import SqliteBridge.ResultCode

/-! How single values cross the boundary. Numbers cross as they are; texts and byte
arrays are references that can be null; objects cross as tokens. -/
namespace SqliteBridge.Boundary

/-- A value of a boundary type. -/
inductive NativeValue where
  | int (n : Int32)
  | long (n : Int64)
  | double (x : Binary64)
  | boolean (b : UInt8)
  | string (s? : Option String)
  | byteArray (bytes? : Option ByteArray)
  | void
deriving DecidableEq

namespace NativeValue

def type : NativeValue → Binding.BoundaryType
  | int _ => .int
  | long _ => .long
  | double _ => .double
  | boolean _ => .boolean
  | string _ => .string
  | byteArray _ => .byteArray
  | void => .void

/-- What is returned when a call fails. -/
def default : Binding.BoundaryType → NativeValue
  | .int => int 0
  | .long => long 0
  | .double => double (.zero false)
  | .boolean => boolean 0
  | .string => string none
  | .byteArray => byteArray none
  | .void => void

theorem type_default (type : Binding.BoundaryType) : (default type).type = type := by
  cases type <;> rfl

end NativeValue

/-- Every byte but zero counts as true. -/
def readFlag (b : UInt8) : Bool := b != 0

def writeFlag (b : Bool) : UInt8 := if b then 1 else 0

/-- A text that must not be null. -/
def requiredText : Option String → Except Error String
  | some s => .ok s
  | none => .error (.invalidArgument "string argument is null")

/-- A byte array that must not be null. -/
def requiredBytes : Option ByteArray → Except Error ByteArray
  | some bytes => .ok bytes
  | none => .error (.invalidArgument "byte array argument is null")

/-- The object of a token from the other side. A token that no table has issued, or
that was given up, aborts the call. -/
def target {α : Type} (table : Handle.Table α) (raw : Int64) : Except Failure α :=
  match Handle.Token.ofRaw? raw with
  | some token => table.resolve token
  | none => .error (.aborted s!"{Handle.disposedMessage} (raw token {raw.toInt})")

end SqliteBridge.Boundary
