/-! Status codes of the database library. The whole 32-bit integer is kept, so an
extended code survives a round trip; its low byte is the primary code, which is
the only part that has a name. -/
namespace SqliteBridge

/-- A status code with all its bits. -/
structure ResultCode where
  value : Int32
deriving DecidableEq, Inhabited

namespace ResultCode

def ok : ResultCode := ⟨0⟩
def error : ResultCode := ⟨1⟩
def abort : ResultCode := ⟨4⟩
def locked : ResultCode := ⟨6⟩
def readOnly : ResultCode := ⟨8⟩
def full : ResultCode := ⟨13⟩
def cannotOpen : ResultCode := ⟨14⟩
def schema : ResultCode := ⟨17⟩
def tooBig : ResultCode := ⟨18⟩
def constraint : ResultCode := ⟨19⟩
def mismatch : ResultCode := ⟨20⟩
def misuse : ResultCode := ⟨21⟩
def auth : ResultCode := ⟨23⟩
def range : ResultCode := ⟨25⟩
def row : ResultCode := ⟨100⟩
def done : ResultCode := ⟨101⟩

/-- The low byte of the code. -/
def primary (code : ResultCode) : ResultCode := ⟨code.value &&& 0xff⟩

def isOk (code : ResultCode) : Bool := code.value == 0

/-- The name of the primary code, for the codes of the published vocabulary. -/
def name? (code : ResultCode) : Option String :=
  match code.primary.value.toInt with
  | 0 => some "OK"
  | 1 => some "ERROR"
  | 2 => some "INTERNAL"
  | 3 => some "PERM"
  | 4 => some "ABORT"
  | 5 => some "BUSY"
  | 6 => some "LOCKED"
  | 7 => some "NOMEM"
  | 8 => some "READONLY"
  | 9 => some "INTERRUPT"
  | 10 => some "IOERR"
  | 11 => some "CORRUPT"
  | 12 => some "NOTFOUND"
  | 13 => some "FULL"
  | 14 => some "CANTOPEN"
  | 15 => some "PROTOCOL"
  | 16 => some "EMPTY"
  | 17 => some "SCHEMA"
  | 18 => some "TOOBIG"
  | 19 => some "CONSTRAINT"
  | 20 => some "MISMATCH"
  | 21 => some "MISUSE"
  | 22 => some "NOLFS"
  | 23 => some "AUTH"
  | 24 => some "FORMAT"
  | 25 => some "RANGE"
  | 26 => some "NOTADB"
  | 27 => some "NOTICE"
  | 28 => some "WARNING"
  | 100 => some "ROW"
  | 101 => some "DONE"
  | _ => none

/-- The written form: the bare name of a primary code, and the number in
parentheses after the name of an extended code or after `UNKNOWN`. -/
def text (code : ResultCode) : String :=
  match code.name? with
  | some name => if code.primary = code then name else s!"{name} ({code.value})"
  | none => s!"UNKNOWN ({code.value})"

/-- The English description that the library gives for a code. Two codes have a
description of their own; all others share that of their primary code. -/
def description (code : ResultCode) : String :=
  match code.value.toInt with
  | 516 => "abort due to ROLLBACK"
  | 100 => "another row available"
  | 101 => "no more rows available"
  | _ =>
    match code.primary.value.toInt with
    | 0 => "not an error"
    | 1 => "SQL logic error"
    | 3 => "access permission denied"
    | 4 => "query aborted"
    | 5 => "database is locked"
    | 6 => "database table is locked"
    | 7 => "out of memory"
    | 8 => "attempt to write a readonly database"
    | 9 => "interrupted"
    | 10 => "disk I/O error"
    | 11 => "database disk image is malformed"
    | 12 => "unknown operation"
    | 13 => "database or disk is full"
    | 14 => "unable to open database file"
    | 15 => "locking protocol"
    | 17 => "database schema has changed"
    | 18 => "string or blob too big"
    | 19 => "constraint failed"
    | 20 => "datatype mismatch"
    | 21 => "bad parameter or other API misuse"
    | 23 => "authorization denied"
    | 25 => "column index out of range"
    | 26 => "file is not a database"
    | 27 => "notification message"
    | 28 => "warning message"
    | _ => "unknown error"

end ResultCode

end SqliteBridge
