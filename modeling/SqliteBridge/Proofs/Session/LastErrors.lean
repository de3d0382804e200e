import SqliteBridge.Native.Scripted
import SqliteBridge.Proofs.Session.Parameters

/-! Errors and the last error of a connection. A call that fails leaves its code and its message
with the connection, so an error that is reported right after it agrees with what the connection
tells when it is asked. The one error that the library never hears of is that of a text or blob
too large to be handed over. -/
namespace SqliteBridge

open Native (Call Library)

/-! ### What calls leave with a connection -/

/-- The failure that a call leaves, or none if it does not fail. Calls that tell of the last call
leave nothing. -/
def Native.Call.outcome? : (call : Call) → call.Result → Option (Option Int32)
  | errorMessage _, _ | errorCode _, _ | free _ _, _ => none
  | openV2 _ _ _, opening => some (if opening.code = 0 then none else some opening.code)
  | prepareV2 _ _, preparation =>
    some (if preparation.code = 0 then none else some preparation.code)
  | exec _ _, execution => some (if execution.code = 0 then none else some execution.code)
  | step _, code => some (if Session.stateAfterStep code = .error then some code else none)
  | close _, code | closeV2 _, code | busyTimeout _ _, code | setAuthorizer _ _, code
  | reset _, code | finalize _, code | clearBindings _, code | bindNull _ _, code
  | bindInt _ _ _, code | bindInt64 _ _ _, code | bindDouble _ _ _, code | bindText _ _ _, code
  | bindBlob _ _ _, code => some (if code = 0 then none else some code)
  | changes _, _ | lastInsertRowId _, _ | bindParameterCount _, _ | columnCount _, _
  | columnName _ _, _ | columnType _ _, _ | columnInt _ _, _ | columnInt64 _ _, _
  | columnDouble _ _, _ | columnText _ _, _ | columnBlob _ _, _ | columnBytes _ _, _ => some none

/-- The message that a call leaves, where it is known. -/
def Native.Call.message? : (call : Call) → call.Result → Option (Option ByteArray)
  | errorMessage _, bytes? => some bytes?
  | exec _ _, execution => some execution.message?
  | errorCode _, _ | free _ _, _ => none
  | _, _ => some none

namespace Event

/-- The failure that an event leaves with a connection, if it is a call about it. -/
def outcome? (id : Nat) : Event → Option (Option Int32)
  | leaves call result => if call.connection = id then call.outcome? result else none
  | _ => none

def message? (id : Nat) : Event → Option (Option ByteArray)
  | leaves call result => if call.connection = id then call.message? result else none
  | _ => none

/-- A connection that is asked for its last code, and the answer. -/
def toldCode? : Event → Option (Nat × Int32)
  | leaves (.errorCode id) code => some (id, code)
  | _ => none

def toldMessage? : Event → Option (Nat × Option ByteArray)
  | leaves (.errorMessage id) bytes? => some (id, bytes?)
  | _ => none

end Event

namespace Session

variable {library : Library} {motion : Motion library} {allowed : Act → Prop}
  {conduct : Conduct library} {session before after : Session library} {id : Nat} {α : Type}
  {cause : StatusError}

/-- Whether a request gives a parameter more bytes than can be handed over. -/
def Request.IsOversized : Request → Prop
  | bind _ _ input => maxByteCount < input.toValue.datum.byteCount
  | _ => False

/-- The failure of the last call about a connection, if it has failed. -/
def lastFailureIn (id : Nat) (log : List Event) : Option Int32 :=
  (log.findSome? (Event.outcome? id)).join

/-- The message of the last call about a connection, where the record has it. -/
def lastMessageIn (id : Nat) (log : List Event) : Option ByteArray :=
  (log.findSome? (Event.message? id)).join

/-- The library remembers how the last call about a connection has failed: it tells its primary code
and a message, the same each time. -/
def TellsLast (event : Event) (earlier : List Event) : Prop :=
  (∀ told ∈ event.toldCode?, ∀ code ∈ lastFailureIn told.1 earlier,
    (ResultCode.mk told.2).primary = (ResultCode.mk code).primary) ∧
  ∀ told ∈ event.toldMessage?,
    ((lastFailureIn told.1 earlier).isSome = true → told.2.isSome = true) ∧
      ∀ message ∈ lastMessageIn told.1 earlier, told.2 = some message

instance (event : Event) (earlier : List Event) : Decidable (TellsLast event earlier) :=
  inferInstanceAs (Decidable
    ((∀ told ∈ event.toldCode?, ∀ code ∈ lastFailureIn told.1 earlier,
      (ResultCode.mk told.2).primary = (ResultCode.mk code).primary) ∧
    ∀ told ∈ event.toldMessage?,
      ((lastFailureIn told.1 earlier).isSome = true → told.2.isSome = true) ∧
        ∀ message ∈ lastMessageIn told.1 earlier, told.2 = some message))

/-- A connection that is open and has the failure of an error and its message on record. -/
structure Remembers (session : Session library) (id : Nat) (cause : StatusError) : Prop where
  isOpen : session.isClosed id = false
  code : ∃ code, lastFailureIn id session.log = some code ∧
    (ResultCode.mk code).primary = cause.code.primary
  message : ∃ bytes, lastMessageIn id session.log = some bytes ∧ Text.ofBytes bytes = cause.message

/-- An error agrees with what the connection tells right after it. -/
structure Agrees (conduct : Conduct library) (after : Session library) (id : Nat)
    (cause : StatusError) : Prop where
  code : ∃ code, (after.errorCode conduct id).1 = .ok code ∧ code.primary = cause.code.primary
  message : ((after.errorCode conduct id).2.errorMessage conduct id).1 = .ok (some cause.message)

theorem lastFailureIn_cons (id : Nat) (event : Event) (log : List Event) :
    lastFailureIn id (event :: log) = (event.outcome? id).getD (lastFailureIn id log) := by
  rw [lastFailureIn, List.findSome?_cons]
  cases event.outcome? id <;> rfl

theorem lastMessageIn_cons (id : Nat) (event : Event) (log : List Event) :
    lastMessageIn id (event :: log) = (event.message? id).getD (lastMessageIn id log) := by
  rw [lastMessageIn, List.findSome?_cons]
  cases event.message? id <;> rfl

/-- To ask for the message leaves the failure as it was, and puts the message on record. -/
theorem called_errorMessage (session : Session library) (id : Nat) (bytes? : Option ByteArray)
    (world : library.World) :
    lastFailureIn id (session.called (.errorMessage id) bytes? world).log =
        lastFailureIn id session.log ∧
      lastMessageIn id (session.called (.errorMessage id) bytes? world).log = bytes? := by
  rw [log_called, lastFailureIn_cons, lastFailureIn_cons, lastMessageIn_cons]
  simp [Event.outcome?, Event.message?, Call.outcome?, Call.message?, Call.connection]

theorem called_errorCode (session : Session library) (id : Nat) (code : Int32)
    (world : library.World) :
    lastFailureIn id (session.called (.errorCode id) code world).log =
        lastFailureIn id session.log ∧
      lastMessageIn id (session.called (.errorCode id) code world).log =
        lastMessageIn id session.log := by
  rw [log_called, lastFailureIn_cons, lastFailureIn_cons, lastMessageIn_cons, lastMessageIn_cons]
  simp [Event.outcome?, Event.message?, Call.outcome?, Call.message?, Call.connection]

theorem errorCode_eq (conduct : Conduct library) (isOpen : session.isClosed id = false) :
    ∃ code world, session.errorCode conduct id =
      (.ok ⟨code⟩, session.called (.errorCode id) code world) := by
  obtain ⟨connection, -, -, passed⟩ := whileOpen_of_isOpen isOpen
  obtain ⟨code, world, -, called⟩ := native_of_compiles_eq_false (.any library)
    (.errorCode id) rfl conduct session
  refine ⟨code, world, ?_⟩
  rw [errorCode, passed, called]

theorem errorMessage_eq (conduct : Conduct library) (isOpen : session.isClosed id = false) :
    ∃ bytes? world, session.errorMessage conduct id =
      (.ok (ownedText bytes?), session.called (.errorMessage id) bytes? world) := by
  obtain ⟨connection, -, -, passed⟩ := whileOpen_of_isOpen isOpen
  obtain ⟨bytes?, world, -, called⟩ := native_of_compiles_eq_false (.any library)
    (.errorMessage id) rfl conduct session
  refine ⟨bytes?, world, ?_⟩
  rw [errorMessage, passed, called]

/-- What is remembered is told. -/
theorem Remembers.agrees (remembers : session.Remembers id cause)
    (tells : Throughout TellsLast ((session.errorCode conduct id).2.errorMessage conduct id).2.log) :
    Agrees conduct session id cause := by
  obtain ⟨code, world, coded⟩ := errorCode_eq conduct remembers.isOpen
  have isOpen : (session.called (.errorCode id) code world).isClosed id = false := remembers.isOpen
  obtain ⟨bytes?, later, told⟩ := errorMessage_eq conduct isOpen
  rw [coded, told] at tells
  obtain ⟨failure, failed, primary⟩ := remembers.code
  obtain ⟨bytes, message, text⟩ := remembers.message
  constructor
  · refine ⟨⟨code⟩, by rw [coded], ?_⟩
    exact (tells.2.2.1.1 (id, code) rfl failure failed).trans primary
  · have same : bytes? = some bytes :=
      (tells.1.2 (id, bytes?) rfl).2 bytes
        ((called_errorCode session id code world).2.trans message)
    rw [coded, told, same]
    exact congrArg (fun text => Except.ok (some text)) text

/-! ### Errors that are reported -/

/-- An error that an operation reports is remembered. -/
def Reports (id : Nat) (outcome : Except Error α × Session library) : Prop :=
  ∀ cause, outcome.1 = .error (.status cause) → Throughout TellsLast outcome.2.log →
    outcome.2.Remembers id cause

theorem reports_ok (id : Nat) (value : α) (session : Session library) :
    Reports id (.ok value, session) := nofun

theorem reports_invalidArgument (id : Nat) (message : String) (session : Session library) :
    Reports (α := α) id (.error (.invalidArgument message), session) := nofun

/-- The error of the last failure has the message of the connection. -/
theorem lastError_remembers {code : Int32} (isOpen : session.isClosed id = false)
    (failed : lastFailureIn id session.log = some code)
    (tells : Throughout TellsLast (session.lastError conduct id code).2.log) :
    (session.lastError conduct id code).2.Remembers id (session.lastError conduct id code).1 := by
  obtain ⟨bytes?, world, -, told⟩ := native_of_compiles_eq_false (.any library)
    (.errorMessage id) rfl conduct session
  simp only [lastError, isOpen, told] at tells ⊢
  obtain ⟨failure, message⟩ := called_errorMessage session id bytes? world
  have entered : lastFailureIn id (session.record (.enters (.errorMessage id))).log = some code :=
    (lastFailureIn_cons id _ _).trans failed
  obtain ⟨bytes, rfl⟩ := Option.isSome_iff_exists.mp
    ((tells.1.2 (id, bytes?) rfl).1 (Option.isSome_iff_exists.mpr ⟨code, entered⟩))
  exact ⟨isOpen, ⟨code, failure.trans failed, rfl⟩, ⟨bytes, message, rfl⟩⟩

theorem fail_reports {code : Int32} (isOpen : session.isClosed id = false)
    (failed : lastFailureIn id session.log = some code) (sql : String) :
    Reports id (session.fail conduct id sql code : Except Error α × _) := by
  rintro cause ⟨⟩ tells
  have remembers := lastError_remembers isOpen failed tells
  exact ⟨remembers.isOpen, remembers.code, remembers.message⟩

theorem check_reports {code : Int32} (isOpen : session.isClosed id = false)
    (failed : code ≠ 0 → lastFailureIn id session.log = some code) (sql : String) :
    Reports id (session.check conduct id sql code) := by
  unfold check
  split
  · exact reports_ok id () session
  · rename_i failure
    exact fail_reports isOpen (failed failure) sql

/-- A call about a connection that fails is the last. -/
theorem lastFailureIn_returned (call : Call) (result : call.Result) (about : call.connection = id)
    {failure : Option Int32} (ends : call.outcome? result = some failure)
    (session : Session library) (world : library.World) :
    lastFailureIn id (session.returned call result world).log = failure := by
  rw [log_returned, lastFailureIn_cons, Event.outcome?, if_pos about, ends]
  rfl

theorem prepare_reports (keeps : Keeps conduct (fun _ => True) id)
    (isOpen : session.isClosed id = false) (sql : String) :
    Reports id (session.prepare conduct id sql) := by
  have careful : Careful (.any library) (fun _ => True) conduct id :=
    keeps.careful (.any library) ⟨.releaseConnection id, trivial, rfl⟩
  obtain ⟨connection, -, -, passed⟩ := whileOpen_of_isOpen isOpen
  obtain ⟨preparation, world, paused, -, same, -, called⟩ :=
    careful.native_interlude (.prepareV2 ⟨id, connection.statements.length⟩ sql)
      (lt_length_of_isClosed isOpen)
  rw [prepare, passed]
  split
  · exact reports_invalidArgument id _ session
  split
  · exact reports_invalidArgument id _ session
  simp only [called]
  split
  · rename_i failure
    have failed := lastFailureIn_returned (.prepareV2 ⟨id, connection.statements.length⟩ sql)
      preparation rfl (congrArg some (if_neg failure)) paused world
    have isOpen' : (paused.returned (.prepareV2 ⟨id, connection.statements.length⟩ sql) preparation
        world).isClosed id = false := same.isClosed.trans isOpen
    exact fail_reports isOpen' failed sql
  split
  · exact reports_ok id _ _
  · exact reports_invalidArgument id _ _

theorem exec_reports (keeps : Keeps conduct (fun _ => True) id)
    (isOpen : session.isClosed id = false) (sql : String) :
    Reports id (session.exec conduct id sql) := by
  have careful : Careful (.any library) (fun _ => True) conduct id :=
    keeps.careful (.any library) ⟨.releaseConnection id, trivial, rfl⟩
  obtain ⟨connection, -, -, passed⟩ := whileOpen_of_isOpen isOpen
  obtain ⟨execution, world, paused, -, same, -, called⟩ :=
    careful.native_interlude (.exec id sql) (lt_length_of_isClosed isOpen)
  have isOpen' : (paused.returned (.exec id sql) execution world).isClosed id = false :=
    same.isClosed.trans isOpen
  rw [exec, passed]
  split
  · exact reports_invalidArgument id _ session
  simp only [called]
  split
  · exact reports_ok id () _
  rename_i failure
  have failed : lastFailureIn id (paused.returned (.exec id sql) execution world).log =
      some execution.code :=
    lastFailureIn_returned (.exec id sql) execution rfl (congrArg some (if_neg failure)) paused world
  cases message : execution.message? with
  | none => exact fail_reports isOpen' failed sql
  | some bytes =>
    obtain ⟨freed, later, -, left⟩ := native_of_compiles_eq_false (.any library)
      (.free id bytes) rfl conduct (paused.returned (.exec id sql) execution world)
    rintro cause ⟨⟩ -
    simp only [left]
    refine ⟨isOpen', ⟨execution.code, ?_, rfl⟩, ⟨bytes, ?_, rfl⟩⟩
    · rw [log_called, lastFailureIn_cons, lastFailureIn_cons, failed]
      simp [Event.outcome?, Call.outcome?, Call.connection]
    · rw [log_called, lastMessageIn_cons, lastMessageIn_cons, log_returned, lastMessageIn_cons]
      simp [Event.message?, Call.message?, Call.connection, message]

theorem setAuthorizer_reports (conduct : Conduct library) (isOpen : session.isClosed id = false)
    (callback? : Option Callback) : Reports id (session.setAuthorizer conduct id callback?) := by
  obtain ⟨connection, -, -, passed⟩ := whileOpen_of_isOpen isOpen
  obtain ⟨code, world, -, called⟩ := native_of_compiles_eq_false (.any library)
    (.setAuthorizer id (session.box callback?).1) rfl conduct (session.box callback?).2
  have isOpen' : ((session.box callback?).2.called (.setAuthorizer id (session.box callback?).1) code
      world).isClosed id = false := (isClosed_congr (connections_box session callback?) id).trans isOpen
  rw [setAuthorizer, passed]
  simp only [called]
  split
  · exact reports_ok id () _
  · rename_i failure
    rintro cause ⟨⟩ tells
    rw [log_dropCallback] at tells
    have remembers := lastError_remembers isOpen'
      (lastFailureIn_returned (.setAuthorizer id (session.box callback?).1) code rfl
        (congrArg some (if_neg failure)) _ world) tells
    refine ⟨(isClosed_congr (connections_dropCallback _ _) id).trans remembers.isOpen, ?_, ?_⟩
    · rw [log_dropCallback]
      exact remembers.code
    · rw [log_dropCallback]
      exact remembers.message

/-! ### Statements -/

section Statements

variable {id : StatementId}

theorem step_reports (keeps : Keeps conduct (fun _ => True) id.connection)
    (guard : session.CanRun id) : Reports id.connection (session.step conduct id) := by
  have careful : Careful (.any library) (fun _ => True) conduct id.connection :=
    keeps.careful (.any library) ⟨.releaseStatement id, trivial, rfl⟩
  obtain ⟨statement, code, world, paused, -, passage, stepped⟩ := careful.step_eq guard
  rw [stepped]
  split
  · rename_i failed
    refine fail_reports ?_ ?_ statement.sql
    · rw [setState, isClosed_updateStatement]
      exact passage.same.isClosed.trans guard.isOpen
    · exact lastFailureIn_returned (.step id) code rfl (congrArg some (if_pos failed)) paused world
  · exact reports_ok _ _ _

theorem reset_reports (keeps : Keeps conduct (fun _ => True) id.connection)
    (guard : session.CanRun id) : Reports id.connection (session.reset conduct id) := by
  have careful : Careful (.any library) (fun _ => True) conduct id.connection :=
    keeps.careful (.any library) ⟨.releaseStatement id, trivial, rfl⟩
  obtain ⟨statement, code, world, paused, -, passage, reset⟩ := careful.reset_eq guard
  rw [reset]
  split
  · exact reports_ok _ _ _
  · refine check_reports ?_ (fun failure => ?_) statement.sql
    · rw [setState, isClosed_updateStatement]
      exact passage.same.isClosed.trans guard.isOpen
    · exact lastFailureIn_returned (.reset id) code rfl (congrArg some (if_neg failure)) paused world

theorem finalize_reports (keeps : Keeps conduct (fun _ => True) id.connection)
    (guard : session.CanRun id) : Reports id.connection (session.finalize conduct id) := by
  have careful : Careful (.any library) (fun _ => True) conduct id.connection :=
    keeps.careful (.any library) ⟨.releaseStatement id, trivial, rfl⟩
  obtain ⟨statement, code, world, paused, -, -, same, -, ended⟩ := careful.finalize_eq guard.isLive
  rw [ended]
  split
  · exact reports_ok _ _ _
  · refine check_reports ?_ (fun failure => ?_) statement.sql
    · refine same.isClosed.trans ?_
      rw [setState, isClosed_updateStatement]
      exact guard.isOpen
    · exact lastFailureIn_returned (.finalize id) code rfl (congrArg some (if_neg failure)) paused world

theorem clearBindings_reports (conduct : Conduct library) (guard : session.CanRun id) :
    Reports id.connection (session.clearBindings conduct id) := by
  obtain ⟨statement, -, -, passed⟩ := onStatement_of_canRun guard
  obtain ⟨code, world, -, called⟩ := native_of_compiles_eq_false (.any library)
    (.clearBindings id) rfl conduct session
  rw [clearBindings, passed]
  simp only [called]
  have isOpen : (session.called (.clearBindings id) code world).isClosed id.connection = false :=
    guard.isOpen
  exact check_reports isOpen (fun failure => lastFailureIn_returned (.clearBindings id) code rfl
    (congrArg some (if_neg failure)) _ world) statement.sql

theorem bind_reports (conduct : Conduct library) (guard : session.CanRun id) (number : Int32)
    {input : Input} (fits : ¬maxByteCount < input.toValue.datum.byteCount) :
    Reports id.connection (session.bind conduct id number input) := by
  obtain ⟨statement, -, -, passed⟩ := onStatement_of_canRun guard
  obtain ⟨code, world, given⟩ :=
    bindValue_of_le conduct session id number (Nat.le_of_not_lt fits)
  have isOpen : (session.handed id number code input.toValue world).isClosed id.connection = false :=
    guard.isOpen
  rw [bind, passed, bindInput_eq, given]
  refine check_reports isOpen (fun failure => ?_) statement.sql
  have left : (input.toValue.handed id number code).outcome? id.connection = some (some code) := by
    cases input.toValue <;> simp [Value.handed, Event.outcome?, Call.connection, Call.outcome?, failure]
  exact (lastFailureIn_cons _ _ _).trans (by rw [left]; rfl)

end Statements

/-! ### Requests -/

/-- Whether a request is about a connection that is open, or about a statement there that is not
finalized. -/
def Addresses (session : Session library) (id : Nat) : Target → Prop
  | .nothing => False
  | .connection other => other = id ∧ session.isClosed id = false
  | .statement other => other.connection = id ∧ session.CanRun other

/-- How an error and the last error of the connection go together. -/
structure Reported (conduct : Conduct library) (session : Session library) (id : Nat)
    (request : Request) (cause : StatusError) (after : Session library) : Prop where
  agrees (fits : ¬request.IsOversized)
    (tells : Throughout TellsLast ((after.errorCode conduct id).2.errorMessage conduct id).2.log) :
    Agrees conduct after id cause
  /-- What is refused as too large leaves the last failure as it was. -/
  oversized (large : request.IsOversized) :
    cause.code = .range ∧ lastFailureIn id after.log = lastFailureIn id session.log

theorem perform_reports (keeps : Keeps conduct (fun _ => True) id) {request : Request}
    (addressed : session.Addresses id request.target) (stays : request ≠ .close id)
    (fits : ¬request.IsOversized) : Reports id (session.perform conduct request) := by
  -- A reply is no error, and the error of a request is that of its operation.
  have replies {α : Type} {embed : α → Reply} {outcome : Except Error α × Session library}
      (reports : Reports id outcome) : Reports id (replying embed outcome) := by
    intro cause refused tells
    rcases outcome with ⟨error | value, after⟩
    · cases refused
      exact reports cause rfl tells
    · cases refused
  cases request with
  | openWith | describe | version => exact addressed.elim
  | close other =>
    obtain ⟨rfl, -⟩ := addressed
    exact absurd rfl stays
  | prepare other sql =>
    obtain ⟨rfl, isOpen⟩ := addressed
    exact replies (prepare_reports keeps isOpen sql)
  | exec other sql =>
    obtain ⟨rfl, isOpen⟩ := addressed
    exact replies (exec_reports keeps isOpen sql)
  | setAuthorizer other callback? =>
    obtain ⟨rfl, isOpen⟩ := addressed
    exact replies (setAuthorizer_reports conduct isOpen callback?)
  | errorMessage other =>
    obtain ⟨rfl, isOpen⟩ := addressed
    obtain ⟨bytes?, world, told⟩ := errorMessage_eq conduct isOpen
    exact replies (told ▸ reports_ok _ _ _)
  | errorCode other =>
    obtain ⟨rfl, isOpen⟩ := addressed
    obtain ⟨code, world, told⟩ := errorCode_eq conduct isOpen
    exact replies (told ▸ reports_ok _ _ _)
  | changes other | lastInsertedId other =>
    obtain ⟨rfl, isOpen⟩ := addressed
    obtain ⟨connection, -, -, passed⟩ := whileOpen_of_isOpen isOpen
    refine replies ?_
    first | rw [changes, passed] | rw [lastInsertedId, passed]
    exact reports_ok _ _ _
  | step statement =>
    obtain ⟨rfl, guard⟩ := addressed
    exact replies (step_reports keeps guard)
  | reset statement =>
    obtain ⟨rfl, guard⟩ := addressed
    exact replies (reset_reports keeps guard)
  | finalize statement =>
    obtain ⟨rfl, guard⟩ := addressed
    exact replies (finalize_reports keeps guard)
  | clearBindings statement =>
    obtain ⟨rfl, guard⟩ := addressed
    exact replies (clearBindings_reports conduct guard)
  | bind statement number input =>
    obtain ⟨rfl, guard⟩ := addressed
    exact replies (bind_reports conduct guard number fits)
  | parameterCount statement | columnCount statement | columnName statement column
  | column statement reading column =>
    obtain ⟨rfl, guard⟩ := addressed
    obtain ⟨handle, -, -, passed⟩ := onStatement_of_canRun guard
    refine replies ?_
    first
      | rw [parameterCount, passed]
      | rw [columnCount, passed]
      | rw [columnName, passed]
      | rw [Session.column, passed]
    exact reports_ok _ _ _

/-- An error of the database library that a request about an open connection is refused with agrees
with what the connection tells right after it, unless a text or blob was too large to be handed
over. -/
theorem refusal_remembered (keeps : Keeps conduct (fun _ => True) id) {request : Request}
    (addressed : session.Addresses id request.target) (stays : request ≠ .close id)
    (refused : session.perform conduct request = (.error (.status cause), after)) :
    Reported conduct session id request cause after := by
  refine ⟨fun fits tells => ?_, fun large => ?_⟩
  · have careful : Careful (.any library) (fun _ => True) conduct id :=
      keeps.careful (.any library) ⟨.releaseConnection id, trivial, rfl⟩
    have path : Path (.any library) (fun _ => True) after
        ((after.errorCode conduct id).2.errorMessage conduct id).2 :=
      careful.errorCode_path.trans careful.errorMessage_path
    have reports := perform_reports keeps addressed stays fits cause
    rw [refused] at reports
    exact (reports rfl (tells.suffix path.log_suffix)).agrees tells
  · cases request with
    | bind statement number input =>
      obtain ⟨rfl, guard⟩ := addressed
      obtain ⟨handle, -, bound⟩ := bind_oversized conduct guard number input large
      have refused : replying (fun _ => Reply.nothing) (session.bind conduct statement number input) =
          (.error (.status cause), after) := refused
      rw [bound] at refused
      cases refused
      refine ⟨rfl, ?_⟩
      obtain kept | ⟨bytes?, world, -, told⟩ :=
        lastError_cases (.any library) conduct session statement.connection rangeCode
      · exact congrArg (fun session => lastFailureIn _ session.log) kept
      · exact (congrArg (fun session => lastFailureIn _ session.log) told).trans
          (called_errorMessage session statement.connection bytes? world).1
    | _ => exact large.elim

/-- A library in which no text can be run. It remembers that as long as nothing else is called. -/
def remembering : Library where
  World := Bool
  start := false
  run call failed :=
    match call with
    | .exec _ _ => .returns ⟨1, some "no such table: t".toUTF8⟩ true
    | .errorCode _ => .returns (if failed then 1 else 0 : Int32) failed
    | .errorMessage _ =>
      .returns (some (if failed then "no such table: t" else "not an error").toUTF8) failed
    | .free _ _ => .returns () failed
    | call => .returns call.uneventful false
  isReturn_run call _ _ := by cases call <;> rfl
  errorString _ := none
  version := .empty

/-- A session with a connection and a statement. -/
def parameterized : Session remembering :=
  (withCapacity remembering 1).runAll []
    [.perform (.openWith .inMemory), .perform (.prepare 0 "SELECT ?")]

theorem refusal_remembered_missing_table :
    let cause : StatusError := ⟨.error, "no such table: t", some "DELETE FROM t"⟩
    let performed := parameterized.perform (.byRules []) (.exec 0 "DELETE FROM t")
    performed.1 = .error (.status cause) ∧ Agrees (.byRules []) performed.2 0 cause := by
  intro cause performed
  have refused : performed = (.error (.status cause), performed.2) := Prod.ext (by rfl) rfl
  have addressed : parameterized.Addresses 0 (Request.exec 0 "DELETE FROM t").target :=
    ⟨rfl, by decide⟩
  have reported := refusal_remembered (fun _ _ _ => .rest) addressed (by simp) refused
  exact ⟨by rw [refused], reported.agrees not_false (by decide +kernel)⟩

/-- The statement can run, and a blob of two gibibytes is refused with an error of range. The
connection tells of no error. -/
theorem oversized_value_forgotten :
    let request := Request.bind ⟨0, 0⟩ 1 (.blob ⟨Array.replicate 2147483648 0⟩)
    let cause : StatusError := ⟨.range, "not an error", some "SELECT ?"⟩
    parameterized.CanRun ⟨0, 0⟩ ∧ ∃ after,
      parameterized.perform (.byRules []) request = (.error (.status cause), after) ∧
      Throughout TellsLast
        ((after.errorCode (.byRules []) 0).2.errorMessage (.byRules []) 0).2.log ∧
      (after.errorCode (.byRules []) 0).1 = .ok .ok ∧ ¬Agrees (.byRules []) after 0 cause := by
  intro request cause
  have guard : parameterized.CanRun ⟨0, 0⟩ := ⟨by decide, by decide⟩
  have large : maxByteCount <
      (Input.blob ⟨Array.replicate 2147483648 0⟩).toValue.datum.byteCount := by
    change 2147483647 < (Array.replicate 2147483648 (0 : UInt8)).size
    rw [Array.size_replicate]
    decide
  obtain ⟨statement, found, bound⟩ := bind_oversized (.byRules []) guard 1 _ large
  cases (rfl : parameterized.statement? ⟨0, 0⟩ = some ⟨"SELECT ?", .prepared, true⟩).symm.trans found
  have told : ((parameterized.fail (.byRules []) 0 "SELECT ?" rangeCode :
      Except Error Unit × _).2.errorCode (.byRules []) 0).1 = .ok .ok := by rfl
  refine ⟨guard, _, congrArg (replying fun _ => .nothing) bound, ?_, told, fun agrees => ?_⟩
  · decide +kernel
  · obtain ⟨code, asked, primary⟩ := agrees.code
    cases told.symm.trans asked
    exact absurd primary (by decide)

end Session

end SqliteBridge
