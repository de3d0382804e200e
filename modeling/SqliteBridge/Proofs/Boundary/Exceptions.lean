import Mathlib.Data.List.Induction
import SqliteBridge.Native.Scripted
import SqliteBridge.Proofs.Boundary.Requests
import SqliteBridge.Proofs.Session.Steps

/-! The pending exception over a run of native methods. A call fails in its arguments, in
the operation or for want of a token; the first failure after an exception was taken is
the one that is pending until the next is taken, while the calls go on. -/
namespace SqliteBridge.Boundary

open Handle (Token)
open Native (Library)
open Session (Reply)

variable {library : Library} {conduct : Conduct library} {session : Session library}
  {environment : Environment} {call : Call} {calls : List Call} {failure : Failure}
  {exception : Exception} {value : NativeValue} {reply : Reply}

/-! ### Failures of a call -/

/-- The exception that tells of a failure. A status keeps its code apart from its bare
message; any other error is told by its text, and an abort by its message. -/
inductive Tells : Failure → Exception → Prop where
  | status (cause : StatusError) : Tells (.refused (.status cause))
      ⟨"com/birbit/sqlite3/SqliteException", some cause.code.value, cause.message⟩
  | other {error : Error} (plain : ∀ cause, error ≠ .status cause) :
      Tells (.refused error) ⟨error.exceptionClass, none, error.text⟩
  | aborted (message : String) :
      Tells (.aborted message) ⟨"java/lang/IllegalStateException", none, message⟩

theorem tells_iff : Tells failure exception ↔ exception = .ofFailure failure := by
  constructor
  · intro tells
    cases tells with
    | status _ | aborted _ => rfl
    | @other error plain =>
      cases error with
      | status cause => exact absurd rfl (plain cause)
      | _ => rfl
  · rintro rfl
    cases failure with
    | aborted message => exact .aborted message
    | refused error =>
      cases error with
      | status cause => exact .status cause
      | _ => exact .other nofun

/-! ### Replies on their way out -/

/-- How a handle that is replied comes by the token that stands for it. -/
inductive Tokened (session : Session library) : Reply → Except Failure Token → Prop where
  | connection (id : Nat) : Tokened session (.connection id) (session.connectionToken id).1
  | statement (id : StatementId) : Tokened session (.statement id) (session.statementToken id).1

/-- What a reply is returned as: a handle as its token, a code or a type as its number, a flag as
one or zero, and anything else as it is. -/
inductive Converts (session : Session library) : Reply → NativeValue → Prop where
  | nothing : Converts session .nothing .void
  | handle {reply : Reply} {token : Token} (tokened : Tokened session reply (.ok token)) :
      Converts session reply (.long token.raw)
  | code (code : ResultCode) : Converts session (.code code) (.int code.value)
  | int (n : Int32) : Converts session (.int n) (.int n)
  | long (n : Int64) : Converts session (.long n) (.long n)
  | text (s? : Option String) : Converts session (.text s?) (.string s?)
  | columnType (kind : ColumnType) : Converts session (.cell (.columnType kind)) (.int kind.code)
  | isNull (b : Bool) : Converts session (.cell (.isNull b)) (.boolean (if b then 1 else 0))
  | columnInt (n : Int32) : Converts session (.cell (.int n)) (.int n)
  | columnLong (n : Int64) : Converts session (.cell (.long n)) (.long n)
  | columnDouble (x : Binary64) : Converts session (.cell (.double x)) (.double x)
  | columnText (s? : Option String) : Converts session (.cell (.text s?)) (.string s?)
  | columnBlob (bytes? : Option ByteArray) :
      Converts session (.cell (.blob bytes?)) (.byteArray bytes?)

theorem Converts.send (converts : Converts session reply value) :
    (send conduct session reply).1 = .ok value := by
  cases converts with
  | handle tokened =>
    generalize made : (Except.ok _ : Except Failure Token) = outcome at tokened
    cases tokened <;> simp only [Boundary.send, ← made] <;> rfl
  | _ => rfl

theorem Tokened.send (tokened : Tokened session reply (.error failure)) :
    (Boundary.send conduct session reply).1 = .error failure := by
  generalize made : (Except.error failure : Except Failure Token) = outcome at tokened
  cases tokened <;> simp only [Boundary.send, ← made] <;> rfl

/-- The type in which a reply is returned. A value without a fixed type is not. -/
def replyType? : Reply → Option Binding.BoundaryType
  | .nothing => some .void
  | .connection _ | .statement _ | .long _ | .cell (.long _) => some .long
  | .code _ | .int _ | .cell (.columnType _) | .cell (.int _) => some .int
  | .text _ | .cell (.text _) => some .string
  | .cell (.isNull _) => some .boolean
  | .cell (.double _) => some .double
  | .cell (.blob _) => some .byteArray
  | .cell (.value _) => none

theorem Converts.type (converts : Converts session reply value) :
    replyType? reply = some value.type := by
  cases converts with
  | handle tokened =>
    generalize (Except.ok _ : Except Failure Token) = outcome at tokened
    cases tokened <;> rfl
  | _ => rfl

/-- A reply that has a type is returned, unless it is a handle that gets no token. -/
theorem converts_or (session : Session library) {type : Binding.BoundaryType}
    (typed : replyType? reply = some type) :
    (∃ value, Converts session reply value) ∨
      ∃ failure, Tokened session reply (.error failure) := by
  cases reply with
  | nothing => exact .inl ⟨_, .nothing⟩
  | connection id =>
    have tokened : Tokened session (.connection id) _ := .connection id
    generalize (session.connectionToken id).1 = outcome at tokened
    cases outcome with
    | error failure => exact .inr ⟨failure, tokened⟩
    | ok token => exact .inl ⟨_, .handle tokened⟩
  | statement id =>
    have tokened : Tokened session (.statement id) _ := .statement id
    generalize (session.statementToken id).1 = outcome at tokened
    cases outcome with
    | error failure => exact .inr ⟨failure, tokened⟩
    | ok token => exact .inl ⟨_, .handle tokened⟩
  | code code => exact .inl ⟨_, .code code⟩
  | int n => exact .inl ⟨_, .int n⟩
  | long n => exact .inl ⟨_, .long n⟩
  | text s? => exact .inl ⟨_, .text s?⟩
  | cell cell =>
    cases cell with
    | columnType kind => exact .inl ⟨_, .columnType kind⟩
    | isNull b => exact .inl ⟨_, .isNull b⟩
    | int n => exact .inl ⟨_, .columnInt n⟩
    | long n => exact .inl ⟨_, .columnLong n⟩
    | double x => exact .inl ⟨_, .columnDouble x⟩
    | text s? => exact .inl ⟨_, .columnText s?⟩
    | blob bytes? => exact .inl ⟨_, .columnBlob bytes?⟩
    | value v => cases typed

/-- The reading that a cell comes from. -/
def cellReading : Cell → Reading
  | .columnType _ => .columnType
  | .isNull _ => .isNull
  | .int _ => .int
  | .long _ => .long
  | .double _ => .double
  | .text _ => .text
  | .blob _ => .blob
  | .value _ => .value

/-- A column is read in the type that is asked for. -/
theorem cellReading_column {id : StatementId} {reading : Reading} {column : Int32} {cell : Cell}
    (read : (session.column conduct id reading column).1 = .ok cell) :
    cellReading cell = reading := by
  have reads : cellReading (session.readCell conduct id column reading).1 = reading := by
    cases reading <;> rfl
  unfold Session.column Session.onStatement Session.whileOpen at read
  split at read
  · cases read
  · split at read
    · cases read
    · split at read
      · cases read
      · split at read
        · cases read
        · cases read
          exact reads

namespace Call

theorem replyType_request {request : Session.Request} (asked : call.request session = .ok request)
    (performed : (session.perform conduct request).1 = .ok reply) :
    replyType? reply = some call.result := by
  cases call with
  | openConnection _ =>
    obtain ⟨_, _, made⟩ := bind_eq_ok asked
    cases made
    obtain ⟨_, _, rfl⟩ := Session.replying_eq_ok performed
    rfl
  | prepareStatement _ _ | exec _ _ | bindText _ _ _ | bindBlob _ _ _ =>
    obtain ⟨_, _, later⟩ := bind_eq_ok asked
    obtain ⟨_, _, made⟩ := bind_eq_ok later
    cases made
    obtain ⟨_, _, rfl⟩ := Session.replying_eq_ok performed
    rfl
  | columnType _ _ | columnIsNull _ _ | columnInt _ _ | columnLong _ _ | columnDouble _ _
  | columnText _ _ | columnBlob _ _ =>
    obtain ⟨_, _, made⟩ := bind_eq_ok asked
    cases made
    obtain ⟨cell, read, rfl⟩ := Session.replying_eq_ok performed
    have reads := cellReading_column read
    cases cell <;> first | rfl | cases reads
  | errorString _ | version =>
    cases asked
    cases performed
    rfl
  | _ =>
    obtain ⟨_, _, made⟩ := bind_eq_ok asked
    cases made
    obtain ⟨_, _, rfl⟩ := Session.replying_eq_ok performed
    rfl

/-! ### The outcome of a call -/

variable (conduct) (session) (call)

/-- Where a call can fail: an argument cannot be read, the operation refuses, or a handle that it
gives gets no token. -/
inductive Fails : Failure → Prop where
  | argument {failure : Failure} (unread : call.request session = .error failure) : Fails failure
  | operation {request : Session.Request} {error : Error}
      (asked : call.request session = .ok request)
      (refused : (session.perform conduct request).1 = .error error) : Fails (.refused error)
  | token {request : Session.Request} {reply : Reply} {failure : Failure}
      (asked : call.request session = .ok request)
      (performed : (session.perform conduct request).1 = .ok reply)
      (untokened : Tokened (session.perform conduct request).2 reply (.error failure)) :
      Fails failure

/-- A call succeeds with the reply to its request, converted to the type that it returns. -/
structure Succeeds (value : NativeValue) : Prop where
  converted : ∃ request reply, call.request session = .ok request ∧
    (session.perform conduct request).1 = .ok reply ∧
    Converts (session.perform conduct request).2 reply value
  typed : value.type = call.result

variable {conduct} {session} {call}

theorem Fails.body (fails : call.Fails conduct session failure) :
    (call.body conduct session).1 = .error failure := by
  cases fails with
  | argument unread => rw [body_refused conduct unread]
  | operation asked refused => rw [body_failed conduct asked refused]
  | token asked performed untokened =>
    rw [body_replied conduct asked performed]
    exact untokened.send

theorem Succeeds.body (succeeds : call.Succeeds conduct session value) :
    (call.body conduct session).1 = .ok value := by
  obtain ⟨request, reply, asked, performed, converts⟩ := succeeds.converted
  rw [body_replied conduct asked performed]
  exact converts.send

/-- Every call ends in one of two ways. -/
theorem succeeds_or_fails (call : Call) (conduct : Conduct library) (session : Session library) :
    (∃ value, call.Succeeds conduct session value) ∨
      ∃ failure, call.Fails conduct session failure := by
  cases asked : call.request session with
  | error failure => exact .inr ⟨failure, .argument asked⟩
  | ok request =>
    cases performed : (session.perform conduct request).1 with
    | error error => exact .inr ⟨_, .operation asked performed⟩
    | ok reply =>
      have typed := replyType_request asked performed
      rcases converts_or (session.perform conduct request).2 typed with
        ⟨value, converts⟩ | ⟨failure, untokened⟩
      · refine .inl ⟨value, ⟨request, reply, asked, performed, converts⟩, ?_⟩
        exact Option.some.inj (converts.type.symm.trans typed)
      · exact .inr ⟨failure, .token asked performed untokened⟩

theorem run_succeeds (succeeds : call.Succeeds conduct session value) (environment : Environment) :
    call.run conduct environment session =
      (value, environment, (call.body conduct session).2) := by
  have ended : call.body conduct session = (.ok value, (call.body conduct session).2) :=
    Prod.ext succeeds.body rfl
  rw [run, ended]
  rfl

theorem run_fails (fails : call.Fails conduct session failure) (environment : Environment) :
    call.run conduct environment session =
      (.default call.result, environment.raise (.ofFailure failure),
        (call.body conduct session).2) := by
  have ended : call.body conduct session = (.error failure, (call.body conduct session).2) :=
    Prod.ext fails.body rfl
  rw [run, ended]
  rfl

/-- How a call ends on the other side. -/
inductive Answer (conduct : Conduct library) (environment : Environment)
    (session : Session library) (call : Call) : Prop where
  | succeeded {value : NativeValue} (succeeds : call.Succeeds conduct session value)
      (returned : (call.run conduct environment session).1 = value)
      (kept : (call.run conduct environment session).2.1.pending? = environment.pending?)
  | failed {failure : Failure} {exception : Exception} (fails : call.Fails conduct session failure)
      (tells : Tells failure exception)
      (returned : (call.run conduct environment session).1 = .default call.result)
      (pending : (call.run conduct environment session).2.1.pending? =
        some (environment.pending?.getD exception))

theorem answer (call : Call) (conduct : Conduct library) (environment : Environment)
    (session : Session library) : Answer conduct environment session call := by
  rcases succeeds_or_fails call conduct session with ⟨value, succeeds⟩ | ⟨failure, fails⟩
  · have run := run_succeeds succeeds environment
    refine .succeeded succeeds ?_ ?_
    · rw [run]
    · rw [run]
  · have run := run_fails fails environment
    refine .failed fails (tells_iff.mpr rfl) ?_ ?_
    · rw [run]
    · rw [run]
      rcases environment with ⟨_ | _⟩ <;> rfl

end Call

/-! ### Runs -/

/-- What the other side does: it calls a native method, or takes the pending exception. -/
inductive Action where
  | call (call : Call)
  | take

variable (conduct)

def Action.apply (state : Environment × Session library) : Action → Environment × Session library
  | .call call => (call.run conduct state.1 state.2).2
  | .take => (state.1.take.2, state.2)

/-- What a run leaves that starts without an exception. -/
def after (session : Session library) (events : List Action) : Environment × Session library :=
  events.foldl (Action.apply conduct) (.empty, session)

/-- All of the calls succeed, one after the other. -/
def AllSucceed : Session library → List Call → Prop
  | _, [] => True
  | session, call :: rest =>
    (∃ value, call.Succeeds conduct session value) ∧ AllSucceed (call.body conduct session).2 rest

/-- No call has been made since an exception was last taken. -/
def Fresh (events : List Action) : Prop := events = [] ∨ ∃ earlier, events = earlier ++ [.take]

/-- The first call that failed since an exception was last taken, and how it failed. -/
def FirstFailure (session : Session library) (events : List Action) (failure : Failure) : Prop :=
  ∃ (earlier : List Action) (calls : List Call) (call : Call) (later : List Call),
    events = earlier ++ (calls ++ call :: later).map .call ∧ Fresh earlier ∧
    AllSucceed conduct (after conduct session earlier).2 calls ∧
    call.Fails conduct (after conduct session (earlier ++ calls.map .call)).2 failure

def NoFailure (session : Session library) (events : List Action) : Prop :=
  ∃ (earlier : List Action) (calls : List Call), events = earlier ++ calls.map .call ∧ Fresh earlier ∧
    AllSucceed conduct (after conduct session earlier).2 calls

section Runs

variable {events earlier : List Action}

theorem after_append (session : Session library) (earlier later : List Action) :
    after conduct session (earlier ++ later) =
      later.foldl (Action.apply conduct) (after conduct session earlier) :=
  List.foldl_append

variable {conduct}

theorem after_fresh (fresh : Fresh earlier) : (after conduct session earlier).1 = .empty := by
  rcases fresh with rfl | ⟨before, rfl⟩
  · rfl
  · rw [after_append]
    rfl

/-- The events end with the calls since an exception was last taken. -/
theorem exists_fresh (events : List Action) :
    ∃ (earlier : List Action) (calls : List Call),
      events = earlier ++ calls.map .call ∧ Fresh earlier := by
  induction events using List.reverseRecOn with
  | nil => exact ⟨[], [], rfl, .inl rfl⟩
  | append_singleton before event ih =>
    cases event with
    | take => exact ⟨before ++ [.take], [], by simp, .inr ⟨before, rfl⟩⟩
    | call call =>
      obtain ⟨earlier, calls, rfl, fresh⟩ := ih
      exact ⟨earlier, calls ++ [call], by simp, fresh⟩

/-- Calls that succeed leave the pending exception alone. -/
theorem foldl_succeed (environment : Environment) (allSucceed : AllSucceed conduct session calls) :
    ((calls.map .call).foldl (Action.apply conduct) (environment, session)).1 = environment := by
  induction calls generalizing session with
  | nil => rfl
  | cons call rest ih =>
    obtain ⟨⟨value, succeeds⟩, allSucceed⟩ := allSucceed
    have first : Action.apply conduct (environment, session) (.call call) =
        (environment, (call.body conduct session).2) := by
      simp only [Action.apply, Call.run_succeeds succeeds]
    rw [List.map_cons, List.foldl_cons, first]
    exact ih allSucceed

/-- No call replaces a pending exception. -/
theorem foldl_pending (conduct : Conduct library) (exception : Exception)
    (session : Session library) (calls : List Call) :
    ((calls.map .call).foldl (Action.apply conduct) (⟨some exception⟩, session)).1 =
      ⟨some exception⟩ := by
  induction calls generalizing session with
  | nil => rfl
  | cons call rest ih =>
    have first : Action.apply conduct (⟨some exception⟩, session) (.call call) =
        (⟨some exception⟩, (call.body conduct session).2) := by
      rcases call.succeeds_or_fails conduct session with ⟨_, succeeds⟩ | ⟨_, fails⟩
      · simp only [Action.apply, Call.run_succeeds succeeds]
      · simp only [Action.apply, Call.run_fails fails, Environment.raise]
    rw [List.map_cons, List.foldl_cons, first]
    exact ih _

/-- Either all calls succeed or one of them is the first to fail. -/
theorem allSucceed_or (conduct : Conduct library) (environment : Environment)
    (session : Session library) (calls : List Call) :
    AllSucceed conduct session calls ∨
      ∃ before call later failure, calls = before ++ call :: later ∧
        AllSucceed conduct session before ∧
        call.Fails conduct
          ((before.map .call).foldl (Action.apply conduct) (environment, session)).2 failure := by
  induction calls generalizing session environment with
  | nil => exact .inl trivial
  | cons call rest ih =>
    rcases call.succeeds_or_fails conduct session with ⟨value, succeeds⟩ | ⟨failure, fails⟩
    · rcases ih environment (call.body conduct session).2 with
        allSucceed | ⟨before, failing, later, failure, rfl, allSucceed, fails⟩
      · exact .inl ⟨⟨value, succeeds⟩, allSucceed⟩
      · refine .inr ⟨call :: before, failing, later, failure, rfl, ⟨⟨value, succeeds⟩, allSucceed⟩, ?_⟩
        rw [List.map_cons, List.foldl_cons]
        simpa only [Action.apply, Call.run_succeeds succeeds] using fails
    · exact .inr ⟨[], call, rest, failure, rfl, trivial, fails⟩

theorem pending_of_noFailure (noFailure : NoFailure conduct session events) :
    (after conduct session events).1.pending? = none := by
  obtain ⟨earlier, calls, rfl, fresh, allSucceed⟩ := noFailure
  have start : after conduct session earlier = (.empty, (after conduct session earlier).2) :=
    Prod.ext (after_fresh fresh) rfl
  rw [after_append, start, foldl_succeed _ allSucceed]
  rfl

theorem pending_of_firstFailure (first : FirstFailure conduct session events failure) :
    (after conduct session events).1.pending? = some (.ofFailure failure) := by
  obtain ⟨earlier, calls, call, later, rfl, fresh, allSucceed, fails⟩ := first
  have before : after conduct session (earlier ++ calls.map .call) =
      (.empty, (after conduct session (earlier ++ calls.map .call)).2) := by
    have quiet := pending_of_noFailure ⟨earlier, calls, rfl, fresh, allSucceed⟩
    exact Prod.ext (congrArg Environment.mk quiet) rfl
  have failed :
      Action.apply conduct (after conduct session (earlier ++ calls.map .call)) (.call call) =
        (⟨some (.ofFailure failure)⟩,
          (call.body conduct (after conduct session (earlier ++ calls.map .call)).2).2) := by
    rw [before]
    simp only [Action.apply, Call.run_fails fails]
    rfl
  rw [List.map_append, List.map_cons, ← List.append_assoc, after_append, List.foldl_cons, failed,
    foldl_pending]

theorem noFailure_or_firstFailure (conduct : Conduct library) (session : Session library)
    (events : List Action) : NoFailure conduct session events ∨ ∃ failure, FirstFailure conduct session events failure := by
  obtain ⟨earlier, calls, rfl, fresh⟩ := exists_fresh events
  rcases allSucceed_or conduct (after conduct session earlier).1
    (after conduct session earlier).2 calls with allSucceed | ⟨before, call, later, failure, rfl, allSucceed, fails⟩
  · exact .inl ⟨earlier, calls, rfl, fresh, allSucceed⟩
  · rw [Prod.eta, ← after_append] at fails
    exact .inr ⟨failure, earlier, before, call, later, rfl, fresh, allSucceed, fails⟩

end Runs

/-- The pending exception after a run, and how any call ends that is made then. -/
structure FirstFailureWins (conduct : Conduct library) (session : Session library)
    (events : List Action) : Prop where
  raised : ∀ exception, (after conduct session events).1.pending? = some exception ↔
    ∃ failure, FirstFailure conduct session events failure ∧ Tells failure exception
  clear : (after conduct session events).1.pending? = none ↔ NoFailure conduct session events
  answer : ∀ call : Call,
    call.Answer conduct (after conduct session events).1 (after conduct session events).2

/-- After any run of native methods, with exceptions taken in between, the pending exception
tells of the first call that failed since one was last taken; there is none if no call
failed. A call that succeeds returns its converted result and leaves the exception alone,
and one that fails returns the default of its type. -/
theorem first_failure_pending (conduct : Conduct library) (session : Session library)
    (events : List Action) : FirstFailureWins conduct session events where
  raised exception := by
    constructor
    · intro pending
      rcases noFailure_or_firstFailure conduct session events with noFailure | ⟨failure, first⟩
      · rw [pending_of_noFailure noFailure] at pending
        contradiction
      · rw [pending_of_firstFailure first] at pending
        exact ⟨failure, first, tells_iff.mpr (Option.some.inj pending).symm⟩
    · rintro ⟨failure, first, tells⟩
      rw [pending_of_firstFailure first, tells_iff.mp tells]
  clear := by
    constructor
    · intro clear
      rcases noFailure_or_firstFailure conduct session events with noFailure | ⟨failure, first⟩
      · exact noFailure
      · rw [pending_of_firstFailure first] at clear
        contradiction
    · exact pending_of_noFailure
  answer call := call.answer conduct _ _

/-- A library that compiles nothing, with a code that has extended bits. -/
def refusing : Library :=
  Native.scripted fun _ call =>
    match call with
    | .prepareV2 _ _ => (⟨257, false⟩ : Native.Preparation)
    | .errorCode _ => (257 : Int32)
    | .errorMessage _ => some "no such collation".toUTF8
    | call => call.uneventful

/-- A refusal stays pending while one call succeeds and another is aborted. -/
theorem first_failure_pending_refused :
    let session := Session.withCapacity refusing 1
    let events : List Action := [.call (.step 0), .take, .call (.openConnection (some "a.db")),
      .call (.prepareStatement 4294967297 (some "SELECT 1")), .call .version, .call (.close 0)]
    let state := after (.byRules []) session events
    FirstFailureWins (.byRules []) session events ∧
      state.1.pending? =
        some ⟨"com/birbit/sqlite3/SqliteException", some 257, "no such collation"⟩ ∧
      ((Call.errorCode 4294967297).run (.byRules []) state.1 state.2).1 = .int 257 ∧
      ((Call.step 4294967297).run (.byRules []) state.1 state.2).1 = .int 0 ∧
      ((Call.openConnection (some "b.db")).run (.byRules []) state.1 state.2).1 = .long 0 := by
  intro session events state
  exact ⟨first_failure_pending (.byRules []) session events, by decide +kernel, by decide +kernel,
    by decide +kernel, by decide +kernel⟩

end SqliteBridge.Boundary
