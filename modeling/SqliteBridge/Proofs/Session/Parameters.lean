import SqliteBridge.Proofs.Session.Lifecycle

/-! What is handed over for a parameter. Each type of value has its call, and what the library gets
by it is a datum of its storage class. -/
namespace SqliteBridge

open Native (Call Library)

/-- The content of a parameter or of a column in the library. -/
inductive Native.Datum where
  | null
  | integer (n : Int64)
  | real (x : Binary64)
  | text (bytes : ByteArray)
  | blob (bytes : ByteArray)
deriving DecidableEq

namespace Native.Datum

/-- How many bytes a text or a blob has. -/
def byteCount : Datum → Nat
  | text bytes => bytes.size
  | blob bytes => bytes.size
  | _ => 0

end Native.Datum

namespace Value

/-- What the library gets of a value. -/
def datum : Value → Native.Datum
  | null => .null
  | int n => .integer n.toInt64
  | long n => .integer n
  | double x => .real x
  | text s => .text s.toUTF8
  | blob bytes => .blob bytes

/-- The call that hands a value over. -/
def call (id : StatementId) (number : Int32) : Value → Call
  | null => .bindNull id number
  | int n => .bindInt id number n
  | long n => .bindInt64 id number n
  | double x => .bindDouble id number x
  | text s => .bindText id number s.toUTF8
  | blob bytes => .bindBlob id number bytes

/-- The return of that call with a code. -/
def handed (id : StatementId) (number code : Int32) : Value → Event
  | null => .leaves (.bindNull id number) code
  | int n => .leaves (.bindInt id number n) code
  | long n => .leaves (.bindInt64 id number n) code
  | double x => .leaves (.bindDouble id number x) code
  | text s => .leaves (.bindText id number s.toUTF8) code
  | blob bytes => .leaves (.bindBlob id number bytes) code

end Value

/-- The value of an input, without its type. -/
def Input.toValue : Input → Value
  | null => .null
  | int n => .int n
  | long n => .long n
  | double x => .double x
  | text s => .text s
  | blob bytes => .blob bytes
  | value v => v

namespace Session

variable {library : Library} {conduct : Conduct library} {session before after : Session library}

theorem bindInput_eq (conduct : Conduct library) (session : Session library) (id : StatementId)
    (number : Int32) (input : Input) :
    session.bindInput conduct id number input =
      session.bindValue conduct id number input.toValue := by
  cases input <;> rfl

/-- A value that is too large is not handed over. -/
theorem bindValue_of_lt (conduct : Conduct library) (session : Session library) (id : StatementId)
    (number : Int32) {v : Value} (large : maxByteCount < v.datum.byteCount) :
    session.bindValue conduct id number v = (rangeCode, session) := by
  cases v with
  | null | int | long | double => exact absurd large (Nat.not_lt_zero _)
  | text s => exact if_pos large
  | blob bytes => exact if_pos large

/-- The session after a value was handed over. -/
def handed (session : Session library) (id : StatementId) (number code : Int32) (v : Value)
    (world : library.World) : Session library :=
  { session with
    world, log := v.handed id number code :: .enters (v.call id number) :: session.log }

/-- Any other value is handed over by its call. -/
theorem bindValue_of_le (conduct : Conduct library) (session : Session library) (id : StatementId)
    (number : Int32) {v : Value} (fits : v.datum.byteCount ≤ maxByteCount) :
    ∃ code world,
      session.bindValue conduct id number v = (code, session.handed id number code v world) := by
  cases v with
  | null =>
    obtain ⟨code, world, -, called⟩ := native_of_compiles_eq_false (.any library)
      (.bindNull id number) rfl conduct session
    exact ⟨code, world, called⟩
  | int n =>
    obtain ⟨code, world, -, called⟩ := native_of_compiles_eq_false (.any library)
      (.bindInt id number n) rfl conduct session
    exact ⟨code, world, called⟩
  | long n =>
    obtain ⟨code, world, -, called⟩ := native_of_compiles_eq_false (.any library)
      (.bindInt64 id number n) rfl conduct session
    exact ⟨code, world, called⟩
  | double x =>
    obtain ⟨code, world, -, called⟩ := native_of_compiles_eq_false (.any library)
      (.bindDouble id number x) rfl conduct session
    exact ⟨code, world, called⟩
  | text s =>
    obtain ⟨code, world, -, called⟩ := native_of_compiles_eq_false (.any library)
      (.bindText id number s.toUTF8) rfl conduct session
    exact ⟨code, world, (if_neg (Nat.not_lt_of_le fits)).trans called⟩
  | blob bytes =>
    obtain ⟨code, world, -, called⟩ := native_of_compiles_eq_false (.any library)
      (.bindBlob id number bytes) rfl conduct session
    exact ⟨code, world, (if_neg (Nat.not_lt_of_le fits)).trans called⟩

section Binding

variable {id : StatementId}

/-- A value that is not too large is handed over, and the code is that of the library. -/
theorem bind_eq (conduct : Conduct library) (guard : session.CanRun id) (number : Int32) {v : Value}
    (fits : v.datum.byteCount ≤ maxByteCount) :
    ∃ statement code world, session.statement? id = some statement ∧
      session.bind conduct id number (.value v) =
        (session.handed id number code v world).check conduct id.connection statement.sql code := by
  obtain ⟨statement, found, -, passed⟩ := onStatement_of_canRun guard
  obtain ⟨code, world, given⟩ := bindValue_of_le conduct session id number fits
  refine ⟨statement, code, world, found, ?_⟩
  rw [bind, passed, bindInput_eq]
  exact congrArg (fun bound => check conduct bound.2 id.connection statement.sql bound.1) given

/-- A value that is too large is refused with an error of range, of which the library has not
heard. -/
theorem bind_oversized (conduct : Conduct library) (guard : session.CanRun id) (number : Int32)
    (input : Input) (large : maxByteCount < input.toValue.datum.byteCount) :
    ∃ statement, session.statement? id = some statement ∧
      session.bind conduct id number input =
        session.fail conduct id.connection statement.sql rangeCode := by
  obtain ⟨statement, found, -, passed⟩ := onStatement_of_canRun guard
  refine ⟨statement, found, ?_⟩
  rw [bind, passed, bindInput_eq, bindValue_of_lt conduct session id number large]
  rfl

end Binding

theorem evolves_bindFrom {allowed : Act → Prop} {id : StatementId}
    (keeps : Keeps conduct allowed id.connection)
    (isAllowed : ∀ number input, allowed (.perform (.bind id number input)))
    (session : Session library) (number : Nat) (values : List Value) :
    Evolves allowed session (session.bindFrom conduct id number values).2 := by
  induction values generalizing session number with
  | nil => exact .rest
  | cons value values ih =>
    have bound : Evolves allowed session (session.bind conduct id (.ofNat number) (.value value)).2 :=
      .single (.perform (.bind id (.ofNat number) (.value value))) rfl
        (isAllowed (.ofNat number) (.value value)) keeps session
    unfold bindFrom
    split
    · exact .rest
    · split <;> rename_i made <;> rw [made] at bound
      · exact bound
      · exact bound.trans (ih _ (number + 1))

end Session

end SqliteBridge
