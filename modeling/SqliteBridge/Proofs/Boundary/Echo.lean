import Mathlib.Data.List.Forall2
import SqliteBridge.Native.Scripted
import SqliteBridge.Proofs.Boundary.Requests
import SqliteBridge.Proofs.Session.Echo
import SqliteBridge.Proofs.Session.Tokens

/-! The round trip of values through native methods. Each kind of value has a method that binds
it, and each type but that of dynamic values has one that reads it. Such a method does what its
request does, so values come back as they do without the boundary. -/
namespace SqliteBridge.Boundary

open Handle (Token)
open Native (Datum Library)
open Session (CanRun EchoesParameters Evolves IsReachable Keeps Quiet ReadsBack Throughout TokensMatched
  isReachable_runAll readAll)

variable {library : Library} {conduct : Conduct library}
  {session session' : Session library} {id : StatementId} {raw : Int64} {count : Nat}
  {values : List Value} {call : Call} {value : NativeValue} {α : Type}

/-! ### Statements with tokens -/

/-- A statement has a token. -/
structure HasToken (session : Session library) (id : StatementId) (raw : Int64) : Prop where
  matched : session.TokensMatched
  live : session.statementTokens.reference id = .live ⟨raw⟩

namespace HasToken

theorem of_target (matched : session.TokensMatched)
    (found : target session.statementTokens.table raw = .ok id) : HasToken session id raw :=
  ⟨matched, (matched.statements.get?_iff _ _).mp
    ((target_eq_ok_iff matched.statements.consistent).mp found)⟩

theorem target (token : HasToken session id raw) :
    target session.statementTokens.table raw = .ok id :=
  (target_eq_ok_iff token.matched.statements.consistent).mpr
    ((token.matched.statements.get?_iff _ _).mpr token.live)

theorem quiet {after : Session library} (token : HasToken session id raw)
    (quiet : Quiet session after) : HasToken after id raw :=
  ⟨⟨quiet.connectionTokens ▸ token.matched.connections,
    quiet.statementTokens ▸ token.matched.statements⟩, quiet.statementTokens ▸ token.live⟩

/-- A call about the statement lets go of it, and the token keeps it. -/
theorem letGo (token : HasToken session id raw) (guard : session.CanRun id)
    (conduct : Conduct library) : letGo conduct session (.statement id) = session := by
  obtain ⟨statement, found, -, -⟩ := Session.onStatement_of_canRun guard
  have reachable : session.isStatementReachable id = true := by
    rw [Session.isStatementReachable, found]
    simp [Session.hasStatementToken, token.live, Handle.Reference.token?]
  exact if_pos reachable

/-- A step that succeeds leaves the statement with its token, whatever the callbacks do to other
connections. -/
theorem step (token : HasToken session id raw)
    (keeps : Keeps conduct (fun _ => True) id.connection) {code : ResultCode}
    (ran : session.step conduct id = (.ok code, session')) :
    HasToken session' id raw ∧ session'.CanRun id := by
  have evolves := Evolves.single (.perform (.step id)) rfl trivial keeps session
  have matched : (session.step conduct id).2.TokensMatched :=
    (evolves.path (.any library)).tokensMatched token.matched
  rw [ran] at matched
  obtain ⟨-, guard, world, paused, passage, rfl⟩ := keeps.step_ok ran
  exact ⟨⟨matched, (passage.same.statementToken id.index).trans token.live⟩, guard⟩

end HasToken

/-! ### Calls about a statement -/

namespace Call

/-- The call that binds a value. -/
def bindValue (raw : Int64) (number : Int32) : Value → Call
  | .null => bindNull raw number
  | .int n => bindInt raw number n
  | .long n => bindLong raw number n
  | .double x => bindDouble raw number x
  | .text s => bindText raw number (some s)
  | .blob bytes => bindBlob raw number (some bytes)

/-- The call that reads a column. A dynamic value has no native type. -/
def readColumn? (raw : Int64) (column : Int32) : Reading → Option Call
  | .columnType => some (columnType raw column)
  | .isNull => some (columnIsNull raw column)
  | .int => some (columnInt raw column)
  | .long => some (columnLong raw column)
  | .double => some (columnDouble raw column)
  | .text => some (columnText raw column)
  | .blob => some (columnBlob raw column)
  | .value => none

variable {request : Session.Request} {embed : α → Session.Reply} {sent : α → NativeValue}
  {outcome : Except Error α × Session library}

/-- A call whose reply is a plain one returns it. -/
theorem run_of_ok (asked : call.request session = .ok request) (about : request.target = .statement id)
    (performed : session.perform conduct request = Session.replying embed outcome)
    (plain : ∀ a session, send conduct session (embed a) = (.ok (sent a), session)) {a : α}
    (ended : outcome = (.ok a, session')) (token : HasToken session' id raw)
    (guard : session'.CanRun id) (environment : Environment) :
    call.run conduct environment session = (sent a, environment, session') := by
  subst ended
  have body : call.body conduct session = (.ok (sent a), session') := by
    rw [body_replied conduct asked (congrArg Prod.fst performed), performed]
    simp only [Session.replying, plain, about, token.letGo guard]
  rw [run, body]
  rfl

/-- A call whose request fails leaves an exception. -/
theorem run_of_error (asked : call.request session = .ok request)
    (performed : session.perform conduct request = Session.replying embed outcome) {error : Error}
    (failed : outcome.1 = .error error) : (call.run conduct .empty session).2.1 ≠ .empty := by
  have refused : (session.perform conduct request).1 = .error error := by
    rw [performed, Session.replying, failed]
    rfl
  rw [run, body_failed conduct asked refused]
  exact nofun

/-- A call about a statement with a token returns a plain reply, without an exception, if and only if
its request succeeds. -/
theorem run_empty_iff (asked : call.request session = .ok request)
    (about : request.target = .statement id)
    (performed : session.perform conduct request = Session.replying embed outcome)
    (plain : ∀ a session, send conduct session (embed a) = (.ok (sent a), session))
    (served : ∀ a, outcome.1 = .ok a → HasToken outcome.2 id raw ∧ outcome.2.CanRun id) :
    call.run conduct .empty session = (value, .empty, session') ↔
      ∃ a, outcome = (.ok a, session') ∧ value = sent a := by
  constructor
  · intro ran
    cases ended : outcome.1 with
    | error error =>
      exact absurd (congrArg (fun ran => ran.2.1) ran) (run_of_error asked performed ended)
    | ok a =>
      obtain ⟨token, guard⟩ := served a ended
      have returned := run_of_ok asked about performed plain (Prod.ext ended rfl) token guard .empty
      cases returned.symm.trans ran
      exact ⟨a, Prod.ext ended rfl, rfl⟩
  · rintro ⟨a, rfl, rfl⟩
    obtain ⟨token, guard⟩ := served a rfl
    exact run_of_ok asked about performed plain rfl token guard .empty

end Call

theorem canRun_of_ok {operation : StatementHandle → Except Error α × Session library} {a : α}
    (passed : (session.onStatement id operation).1 = .ok a) : session.CanRun id := by
  by_cases guard : session.CanRun id
  · exact guard
  · obtain ⟨message, refused⟩ := Session.onStatement_of_not_canRun guard
    rw [refused operation] at passed
    cases passed

namespace HasToken

theorem run_bindValue (token : HasToken session id raw) (number : Int32) (bound : Value) :
    (Call.bindValue raw number bound).run conduct .empty session = (value, .empty, session') ↔
      session.bind conduct id number (.value bound) = (.ok (), session') ∧ value = .void := by
  have statement : Call.statement session raw = .ok id := token.target
  have asked : (Call.bindValue raw number bound).request session =
      .ok (.bind id number (.ofValue bound)) := by
    cases bound <;> simp only [Call.bindValue, Call.request, statement] <;> rfl
  -- A value is bound in its own type.
  have same : session.bind conduct id number (.ofValue bound) =
      session.bind conduct id number (.value bound) := by
    cases bound <;> rfl
  have quiet := Session.quiet_bind conduct session id number (.ofValue bound)
  have returned : (Call.bindValue raw number bound).run conduct .empty session =
      (value, .empty, session') ↔
        ∃ done : Unit, session.bind conduct id number (.ofValue bound) = (.ok done, session') ∧
          value = .void :=
    Call.run_empty_iff asked rfl rfl (fun _ _ => rfl) fun _ ended =>
      ⟨token.quiet quiet, quiet.canRun (canRun_of_ok ended)⟩
  rw [← same, returned]
  exact ⟨fun ⟨_, same⟩ => same, fun same => ⟨(), same⟩⟩

theorem run_step (token : HasToken session id raw)
    (keeps : Keeps conduct (fun _ => True) id.connection) :
    (Call.step raw).run conduct .empty session = (value, .empty, session') ↔
      ∃ code, session.step conduct id = (.ok code, session') ∧ value = .int code.value := by
  have statement : Call.statement session raw = .ok id := token.target
  have asked : (Call.step raw).request session = .ok (.step id) := by
    simp only [Call.request, statement]
    rfl
  exact Call.run_empty_iff asked rfl rfl (fun _ _ => rfl) fun _ ended =>
    token.step keeps (Prod.ext ended rfl)

/-- Columns of a statement that can run can be read, whether or not an exception is pending. -/
theorem run_readColumn (token : HasToken session id raw) (guard : session.CanRun id)
    {column : Int32} {reading : Reading} (made : Call.readColumn? raw column reading = some call)
    (conduct : Conduct library) (environment : Environment) :
    ∃ cell, (session.column conduct id reading column).1 = .ok cell ∧
      call.run conduct environment session =
        (sendCell cell, environment, (session.column conduct id reading column).2) := by
  have statement : Call.statement session raw = .ok id := token.target
  have asked : call.request session = .ok (.column id reading column) := by
    cases reading <;> cases made <;> simp only [Call.request, statement] <;> rfl
  obtain ⟨_, -, -, passed⟩ := Session.onStatement_of_canRun guard
  have read : (session.column conduct id reading column).1 =
      .ok (session.readCell conduct id column reading).1 := by
    rw [Session.column, passed]
    rfl
  have quiet := Session.quiet_column conduct session id reading column
  exact ⟨_, read, Call.run_of_ok asked rfl rfl (fun _ _ => rfl) (Prod.ext read rfl)
    (token.quiet quiet) (quiet.canRun guard) environment⟩

end HasToken

/-! ### Calls in a row -/

namespace Call

/-- Calls one after the other, with what they return. -/
def runAll (conduct : Conduct library) : List Call → Environment → Session library →
    List NativeValue × Environment × Session library
  | [], environment, session => ([], environment, session)
  | call :: rest, environment, session =>
    let (value, environment, session) := call.run conduct environment session
    let (values, environment, session) := runAll conduct rest environment session
    (value :: values, environment, session)

theorem run_pending {environment : Environment} (pending : environment.pending?.isSome = true)
    (call : Call) (session : Session library) :
    (call.run conduct environment session).2.1 = environment := by
  rcases environment with ⟨_ | exception⟩
  · contradiction
  · unfold run
    rcases call.body conduct session with ⟨failure | value, after⟩ <;> rfl

theorem runAll_pending {environment : Environment} (pending : environment.pending?.isSome = true)
    (calls : List Call) (session : Session library) :
    (runAll conduct calls environment session).2.1 = environment := by
  induction calls generalizing session with
  | nil => rfl
  | cons call rest ih =>
    have kept : (call.run conduct environment session).2.1 = environment :=
      run_pending pending call session
    have later := ih (call.run conduct environment session).2.2
    rw [← kept] at later
    exact later.trans kept

theorem runAll_cons {rest : List Call} {returned : List NativeValue} :
    runAll conduct (call :: rest) .empty session = (value :: returned, .empty, session') ↔
      ∃ between, call.run conduct .empty session = (value, .empty, between) ∧
        runAll conduct rest .empty between = (returned, .empty, session') := by
  rw [runAll]
  rcases call.run conduct .empty session with ⟨first, environment, between⟩
  rcases later : runAll conduct rest environment between with ⟨others, last, after⟩
  dsimp only
  rw [later]
  constructor
  · intro ended
    cases ended
    rcases environment with ⟨_ | exception⟩
    · exact ⟨between, rfl, later⟩
    · -- an exception would still be pending at the end
      have stuck : (runAll conduct rest ⟨some exception⟩ between).2.1 = ⟨some exception⟩ :=
        runAll_pending rfl rest between
      rw [later] at stuck
      cases stuck
  · rintro ⟨_, same, rest⟩
    cases same
    cases later.symm.trans rest
    rfl

/-- The calls that bind values to the parameters from a number on. -/
def bindFrom (raw : Int64) : (number : Nat) → List Value → List Call
  | _, [] => []
  | number, value :: rest => bindValue raw (.ofNat number) value :: bindFrom raw (number + 1) rest

end Call

/-- Values are bound one by one if and only if they are bound as a list, if there are numbers for
them. -/
theorem HasToken.runAll_bindFrom (token : HasToken session id raw) {number : Nat}
    (numbered : ∀ i < values.length, number + i < 2147483648) :
    Call.runAll conduct (Call.bindFrom raw number values) .empty session =
        (values.map fun _ => .void, .empty, session') ↔
      session.bindFrom conduct id number values = (.ok (), session') := by
  induction values generalizing session number with
  | nil =>
    constructor <;>
    · intro ended
      cases ended
      rfl
  | cons value rest ih =>
    have inRange : (number : Int) ≤ Int32.maxValue.toInt := by
      have first := numbered 0 (Nat.succ_pos _)
      rw [show Int32.maxValue.toInt = 2147483647 from rfl]
      omega
    have later {next : Session library}
        (bound : session.bind conduct id (.ofNat number) (.value value) = (.ok (), next)) :
        Call.runAll conduct (Call.bindFrom raw (number + 1) rest) .empty next =
            (rest.map fun _ => .void, .empty, session') ↔
          next.bindFrom conduct id (number + 1) rest = (.ok (), session') := by
      have quiet := Session.quiet_bind conduct session id (.ofNat number) (.value value)
      rw [bound] at quiet
      refine ih (token.quiet quiet) fun i listed => ?_
      have shifted := numbered (i + 1) (Nat.succ_lt_succ listed)
      omega
    rw [Call.bindFrom, List.map_cons, Call.runAll_cons, Session.bindFrom_cons conduct session id inRange]
    constructor
    · rintro ⟨between, ran, ended⟩
      have bound := ((token.run_bindValue _ value).mp ran).1
      rw [bound]
      exact (later bound).mp ended
    · intro ended
      split at ended
      · cases ended
      · rename_i next bound
        exact ⟨next, (token.run_bindValue _ value).mpr ⟨bound, rfl⟩, (later bound).mpr ended⟩

/-! ### The round trip -/

/-- The values are bound in order, and the statement comes to a row. Nothing leaves an
exception. -/
def Trip (conduct : Conduct library) (session : Session library) (raw : Int64) (values : List Value)
    (stepped : Session library) : Prop :=
  ∃ bound code, Call.runAll conduct (Call.bindFrom raw 1 values) .empty session =
      (values.map fun _ => .void, .empty, bound) ∧
    (Call.step raw).run conduct .empty bound = (.int code, .empty, stepped) ∧
    (⟨code⟩ : ResultCode).primary = .row

theorem HasToken.trip_iff (token : HasToken session id raw)
    (keeps : Keeps conduct (fun _ => True) id.connection) {stepped : Session library}
    (numbered : values.length < 2147483648) :
    Trip conduct session raw values stepped ↔ session.Trip conduct id values stepped := by
  have binds (bound : Session library) : Call.runAll conduct (Call.bindFrom raw 1 values) .empty
      session = (values.map fun _ => .void, .empty, bound) ↔
        session.bindValues conduct id values = (.ok (), bound) :=
    token.runAll_bindFrom fun i listed => by omega
  have later {bound : Session library}
      (made : session.bindValues conduct id values = (.ok (), bound)) : HasToken bound id raw := by
    have quiet := Session.quiet_bindFrom conduct session id 1 values
    rw [show session.bindFrom conduct id 1 values = (.ok (), bound) from made] at quiet
    exact token.quiet quiet
  constructor
  · rintro ⟨bound, code, bindings, ran, row⟩
    have made := (binds bound).mp bindings
    obtain ⟨code, stepped, same⟩ := ((later made).run_step keeps).mp ran
    cases same
    exact ⟨bound, code, made, stepped, row⟩
  · rintro ⟨bound, code, made, ran, row⟩
    exact ⟨bound, code.value, (binds bound).mpr made,
      ((later made).run_step keeps).mpr ⟨code, ran, rfl⟩, row⟩

/-- The call reads the column of a statement in the type of a reading. -/
def IsRead (raw : Int64) (read : Reading × Nat) (call : Call) : Prop :=
  Call.readColumn? raw (.ofNat read.2) read.1 = some call

/-- Values come back from the row in canonical form through the native methods, whatever these read
before. -/
def Returns (conduct : Conduct library) (id : StatementId) (raw : Int64) (count : Nat)
    (values : List Value) (stepped : Session library) : Prop :=
  ∀ (reads : List (Reading × Nat)) (calls : List Call) (read : Reading × Nat) (call : Call)
    (cell : Cell),
    List.Forall₂ (IsRead raw) reads calls → (∀ earlier ∈ reads, ∃ cell, ReadsBack count values earlier cell) →
    IsRead raw read call → ReadsBack count values read cell →
    let before := Call.runAll conduct calls .empty stepped
    let outcome := call.run conduct before.2.1 before.2.2
    Throughout (EchoesParameters id count) outcome.2.2.log →
      outcome.1 = sendCell cell ∧ outcome.2.1 = .empty

/-- Columns of a statement that can run are read one after the other, without an exception. -/
theorem HasToken.runAll_reads (token : HasToken session id raw) (guard : session.CanRun id)
    (conduct : Conduct library) {reads : List (Reading × Nat)} {calls : List Call}
    (made : List.Forall₂ (IsRead raw) reads calls) :
    (∃ cells, Call.runAll conduct calls .empty session =
      (cells, .empty, readAll conduct id reads session)) ∧
    HasToken (readAll conduct id reads session) id raw ∧
      (readAll conduct id reads session).CanRun id := by
  induction made generalizing session with
  | nil => exact ⟨⟨[], rfl⟩, token, guard⟩
  | @cons read call reads calls isRead made ih =>
    obtain ⟨cell, -, ran⟩ := token.run_readColumn guard isRead conduct .empty
    have quiet := Session.quiet_column conduct session id read.1 (.ofNat read.2)
    obtain ⟨⟨cells, later⟩, kept⟩ := ih (token.quiet quiet) (quiet.canRun guard)
    exact ⟨⟨_, Call.runAll_cons.mpr ⟨_, ran, later⟩⟩, kept⟩

theorem HasToken.returns {stepped : Session library} (token : HasToken stepped id raw)
    (guard : stepped.CanRun id) (returns : Session.Returns conduct id count values stepped) :
    Returns conduct id raw count values stepped := by
  intro reads calls read call cell made earlier isRead tells
  obtain ⟨⟨cells, ran⟩, token, guard⟩ := token.runAll_reads guard conduct made
  obtain ⟨shown, read', ran'⟩ := token.run_readColumn guard isRead conduct .empty
  simp only [ran, ran']
  intro echoes
  have told := returns reads read cell earlier tells echoes
  exact ⟨congrArg sendCell (Except.ok.inj (read'.symm.trans told)), trivial⟩

/-- The round trip of values through a statement whose columns echo its parameters: with the requests
of a session, and with the native methods on a token of the statement. -/
structure RoundTrip (conduct : Conduct library) (session : Session library) (id : StatementId)
    (count : Nat) (values : List Value) : Prop where
  returns : ∀ stepped, session.Trip conduct id values stepped →
    Session.Returns conduct id count values stepped
  native : ∀ raw, target session.statementTokens.table raw = .ok id → ∀ stepped,
    (values.length < 2147483648 →
      (Trip conduct session raw values stepped ↔ session.Trip conduct id values stepped)) ∧
    (session.Trip conduct id values stepped → Returns conduct id raw count values stepped)

theorem HasToken.of_trip (token : HasToken session id raw)
    (keeps : Keeps conduct (fun _ => True) id.connection) {stepped : Session library}
    (trip : session.Trip conduct id values stepped) :
    HasToken stepped id raw ∧ stepped.CanRun id := by
  obtain ⟨bound, code, made, ran, -⟩ := trip
  have quiet := Session.quiet_bindFrom conduct session id 1 values
  rw [show session.bindFrom conduct id 1 values = (.ok (), bound) from made] at quiet
  exact (token.quiet quiet).step keeps ran

/-- Values that were bound in order to a statement come back from its row up to their canonical form,
if the columns echo the parameters and no callback acts on the connection. -/
theorem echo_roundTrip (reachable : session.IsReachable)
    (keeps : Keeps conduct (fun _ => True) id.connection) (count : Nat) (values : List Value) :
    RoundTrip conduct session id count values where
  returns _ trip := trip.returns keeps count
  native raw found _ := by
    have token := HasToken.of_target reachable.tokensMatched found
    refine ⟨token.trip_iff keeps, fun trip => ?_⟩
    obtain ⟨token, guard⟩ := token.of_trip keeps trip
    exact token.returns guard (trip.returns keeps count)

/-- Values of every class, and those whose form changes. -/
def samples : List Value :=
  [.long 5, .long 1099511627776, .double .nan, .double (.zero true), .text "a\x00é", .text "",
    .blob ⟨#[0, 255]⟩, .blob ⟨#[]⟩]

/-- What a call for a column returns that shows a datum. -/
def answered (datum : Datum) : (call : Native.Call) → call.Result
  | .columnType _ _ => datum.columnType.code
  | .columnInt _ _ => match datum with | .integer n => n.toInt32 | _ => 0
  | .columnInt64 _ _ => match datum with | .integer n => n | _ => 0
  | .columnDouble _ _ => match datum with | .real x => x | _ => ⟨0⟩
  | .columnText _ _ => match datum with | .text bytes => some bytes | _ => none
  | .columnBlob _ _ =>
    match datum with
    | .blob bytes => if bytes.size = 0 then none else some bytes
    | _ => none
  | .columnBytes _ _ =>
    match datum with
    | .text bytes => .ofNat bytes.size
    | .blob bytes => .ofNat bytes.size
    | _ => (0 : Int32)
  | call => call.uneventful

/-- A library in which every statement comes to a row that shows the samples. -/
def echoing : Library :=
  Native.scripted fun _ call =>
    match call with
    | .step _ => (100 : Int32)
    | call =>
      match call.column? with
      | some (_, column) =>
        answered ((samples[column.toInt.toNat]?).elim .null (·.datum.stored)) call
      | none => call.uneventful

/-- A statement for the samples, with a token. -/
def sampled : Session echoing :=
  (Session.withCapacity echoing 1).runAll [] [.perform (.openWith .inMemory),
    .perform (.prepare 0 "SELECT ?, ?, ?, ?, ?, ?, ?, ?"), .statementToken ⟨0, 0⟩]

/-- How the columns read. -/
def readings : List ((Reading × Nat) × Cell) :=
  [((.value, 0), .value (.int 5)), ((.long, 1), .long 1099511627776), ((.isNull, 2), .isNull true),
    ((.double, 3), .double (.zero true)), ((.value, 4), .value (.text "a\x00é")),
    ((.text, 5), .text (some "")), ((.blob, 6), .blob (some ⟨#[0, 255]⟩)), ((.blob, 7), .blob none)]

/-- The samples are bound to it, it is stepped to its row, and there every column is read as what it
is. -/
theorem sampled_trip :
    let conduct : Conduct echoing := .byRules []
    ∃ stepped, sampled.Trip conduct ⟨0, 0⟩ samples stepped ∧
      (∀ told ∈ readings, ReadsBack 8 samples told.1 told.2 ∧ Throughout (EchoesParameters ⟨0, 0⟩ 8)
        (stepped.column conduct ⟨0, 0⟩ told.1.1 (.ofNat told.1.2)).2.log) ∧
      Throughout (EchoesParameters ⟨0, 0⟩ 8)
        ((Call.columnBlob 4294967297 6).run conduct .empty stepped).2.2.log := by
  intro conduct
  refine ⟨((sampled.bindValues conduct ⟨0, 0⟩ samples).2.step conduct ⟨0, 0⟩).2,
    ⟨(sampled.bindValues conduct ⟨0, 0⟩ samples).2, ⟨100⟩, Prod.ext ?_ rfl, Prod.ext ?_ rfl, by decide⟩, ?_, ?_⟩
  · decide +kernel
  · decide +kernel
  · decide +kernel
  · decide +kernel

theorem echo_roundTrip_samples :
    let conduct : Conduct echoing := .byRules []
    ∃ stepped, Trip conduct sampled 4294967297 samples stepped ∧
      (∀ told ∈ readings,
        (stepped.column conduct ⟨0, 0⟩ told.1.1 (.ofNat told.1.2)).1 = .ok told.2) ∧
      ((Call.columnBlob 4294967297 6).run conduct .empty stepped).1 =
        .byteArray (some ⟨#[0, 255]⟩) := by
  intro conduct
  have keeps : Keeps conduct (fun _ => True) 0 := fun _ _ _ => .rest
  have trip : RoundTrip conduct sampled ⟨0, 0⟩ 8 samples :=
    echo_roundTrip (isReachable_runAll 1 [] _) keeps 8 samples
  obtain ⟨stepped, made, tells, echoes⟩ := sampled_trip
  have native := trip.native 4294967297 rfl stepped
  refine ⟨stepped, (native.1 (by decide)).mpr made, ?_, ?_⟩
  · intro told listed
    obtain ⟨tells, echoes⟩ := tells told listed
    exact trip.returns stepped made [] told.1 told.2 nofun tells echoes
  · exact (native.2 made [] [] (.blob, 6) _ (.blob (some ⟨#[0, 255]⟩)) .nil nofun rfl
      (by decide +kernel) echoes).1

end SqliteBridge.Boundary
