import SqliteBridge.Proofs.Session.Parameters
import SqliteBridge.Proofs.Session.Release
import SqliteBridge.Proofs.Session.Reporting
import SqliteBridge.Session.Query

/-! Queries as brackets around a statement. On every way out of a query, also where its block
breaks off, the statement that it prepared is finalized, once, and no other statement has another
state than callbacks and the block gave it. What the block came to is what the query comes to:
finalizing the statement has no error of its own to put in its place. -/
namespace SqliteBridge.Session

open Native (Call Library)

variable {library : Library} {α : Type} {other : Act → Prop} {conduct : Conduct library}
  {session before after : Session library} {connection : Nat} {except? : Option StatementId}

/-- The acts of a query on a connection, and those of the callbacks that are asked meanwhile. -/
def Own (other : Act → Prop) (connection : Nat) (act : Act) : Prop :=
  act.connection? = some connection ∨ other act

theorem Own.careful (keeps : Keeps conduct other connection) :
    Careful (.any library) (Own other connection) conduct connection :=
  (keeps.mono fun _ => .inr).careful (.any library) ⟨.connectionToken connection, .inl rfl, rfl⟩

/-- The statements that there were have the states that they had, but for one at most and for those
of the connections that callbacks act on. -/
structure Kept (other : Act → Prop) (connection : Nat) (except? : Option StatementId)
    (before after : Session library) : Prop where
  length_le : before.connections.length ≤ after.connections.length
  state?_eq (id : StatementId) (isOld : id.connection < before.connections.length)
    (untouched : id.connection = connection ∨ ¬Touched other id.connection)
    (different : except? ≠ some id) : after.state? id = before.state? id

namespace Kept

theorem refl : Kept other connection except? session session := ⟨Nat.le_refl _, fun _ _ _ _ => rfl⟩

theorem trans {first second third : Session library}
    (early : Kept other connection except? first second)
    (late : Kept other connection except? second third) :
    Kept other connection except? first third :=
  ⟨Nat.le_trans early.length_le late.length_le, fun id isOld untouched different =>
    (late.state?_eq id (Nat.lt_of_lt_of_le isOld early.length_le) untouched different).trans
      (early.state?_eq id isOld untouched different)⟩

/-- A path about the connection, if it keeps the other statements there. -/
theorem of_path (path : Path (.any library) (Own other connection) before after)
    (own : ∀ id : StatementId, id.connection = connection → except? ≠ some id →
      after.state? id = before.state? id) : Kept other connection except? before after := by
  refine ⟨path.length_le, fun id isOld untouched different => ?_⟩
  by_cases same : id.connection = connection
  · exact own id same different
  · have untouched : ¬Touched (Own other connection) id.connection := by
      rintro ⟨act, own | isOther, about⟩
      · exact same (Option.some.inj (about.symm.trans own))
      · exact untouched.resolve_left same ⟨act, isOther, about⟩
    exact (path.sameHandles untouched isOld).1.state?

theorem of_quiet (quiet : Quiet before after) : Kept other connection except? before after :=
  ⟨Nat.le_of_eq (congrArg _ quiet.connections.symm), fun id _ _ _ => quiet.state? id⟩

end Kept

/-! ### The statement of a query -/

/-- A query has its statement: a new one that lives, and nothing else has another state. -/
structure Underway (other : Act → Prop) (id : StatementId) (before after : Session library) :
    Prop where
  reachable : after.IsReachable
  isLive : after.isFinalized id = false
  others : Kept other id.connection (some id) before after

/-- What comes of preparing a text. -/
theorem Careful.prepare_cases {motion : Motion library} {allowed : Act → Prop}
    (careful : Careful motion allowed conduct connection) (session : Session library)
    (sql : String) :
    (∃ error, (session.prepare conduct connection sql).1 = .error error ∧
      ∀ id : StatementId, id.connection = connection →
        (session.prepare conduct connection sql).2.state? id = session.state? id) ∨
    ∃ id : StatementId, id.connection = connection ∧ session.state? id = none ∧
      (session.prepare conduct connection sql).1 = .ok id ∧
      (session.prepare conduct connection sql).2.state? id = some .prepared ∧
      ∀ id', id'.connection = connection → id' ≠ id →
        (session.prepare conduct connection sql).2.state? id' = session.state? id' := by
  cases isClosed : session.isClosed connection with
  | true =>
    have refused : session.prepare conduct connection sql = session.misuse "connection is closed" :=
      whileOpen_of_isClosed isClosed _
    rw [refused]
    exact .inl ⟨_, rfl, fun _ _ => rfl⟩
  | false =>
    obtain ⟨handle, found, -, passed⟩ := whileOpen_of_isOpen isClosed
    obtain ⟨preparation, world, paused, interlude, same, moved, called⟩ :=
      careful.native_interlude (.prepareV2 ⟨connection, handle.statements.length⟩ sql)
        (lt_length_of_isClosed isClosed)
    have kept (id : StatementId) (about : id.connection = connection) :
        paused.state? id = session.state? id := by
      subst about
      exact congrArg (Option.map StatementHandle.state) (same.statement id.index)
    rw [prepare, passed]
    split
    · exact .inl ⟨_, rfl, fun _ _ => rfl⟩
    split
    · exact .inl ⟨_, rfl, fun _ _ => rfl⟩
    simp only [called]
    split
    · refine .inl ⟨_, rfl, fun id about => ?_⟩
      rw [state?_fail]
      exact kept id about
    split
    · have added (id : StatementId) :
          ((paused.returned (.prepareV2 ⟨connection, handle.statements.length⟩ sql) preparation
            world).addStatement ⟨connection, handle.statements.length⟩ sql).state? id =
            if ⟨connection, handle.statements.length⟩ = id then some .prepared else paused.state? id :=
        state?_addStatement _ (same.connection.trans found) rfl sql id
      refine .inr ⟨⟨connection, handle.statements.length⟩, rfl, ?_, rfl, ?_, fun id about apart => ?_⟩
      · simp [state?, statement?, found]
      · exact (added _).trans (if_pos rfl)
      · exact (added id).trans ((if_neg (Ne.symm apart)).trans (kept id about))
    · exact .inl ⟨_, rfl, kept⟩

namespace Underway

variable {id : StatementId}

theorem bound (underway : Underway other id before after)
    (keeps : Keeps conduct (fun _ => True) id.connection) (values : List Value) :
    Underway other id before (after.bindValues conduct id values).2 := by
  have quiet := quiet_bindFrom conduct after id 1 values
  refine ⟨underway.reachable.evolves (evolves_bindFrom keeps (fun _ _ => trivial) after 1 values), ?_,
    underway.others.trans (.of_quiet quiet)⟩
  exact (isFinalized_congr quiet.connections id).trans underway.isLive

end Underway

theorem underway_of_prepare (reachable : session.IsReachable) (keeps : Keeps conduct other connection)
    {sql : String} {id : StatementId} {prepared : Session library}
    (made : session.prepare conduct connection sql = (.ok id, prepared)) :
    id.connection = connection ∧ session.state? id = none ∧ Underway other id session prepared := by
  have careful := Own.careful keeps
  obtain ⟨error, failed, -⟩ | ⟨made', about, isNew, ok, state, others⟩ :=
    careful.prepare_cases session sql
  · rw [made] at failed
    cases failed
  · rw [made] at ok state others
    cases ok
    subst about
    refine ⟨rfl, isNew, ?_, ?_, .of_path ?_ fun id' about different => ?_⟩
    · have evolves : Evolves (fun _ => True) session (session.prepare conduct id.connection sql).2 :=
        .single (.perform (.prepare id.connection sql)) rfl trivial
          (keeps.mono fun _ _ => trivial) session
      rw [made] at evolves
      exact reachable.evolves evolves
    · exact isFinalized_eq_false_iff_state?.mpr ⟨.prepared, state, by decide⟩
    · have path : Path (.any library) (Own other id.connection) session
          (session.prepare conduct id.connection sql).2 := careful.prepare_path sql
      rw [made] at path
      exact path
    · exact others id' about fun same => different (congrArg some same.symm)

/-! ### The end of the statement -/

/-- To let go of a finalized statement changes no state. -/
theorem state?_releaseStatement_of_isFinalized {id : StatementId}
    (isFinalized : session.isFinalized id = true) (conduct : Conduct library) (id' : StatementId) :
    (session.releaseStatement conduct id).state? id' = session.state? id' := by
  have kept (id' : StatementId) := session.state?_releaseStatement id id'
  have isFinalized : (session.updateStatement id fun statement =>
      { statement with isHeld := false }).isFinalized id = true := by
    rw [isFinalized_eq, kept, ← isFinalized_eq]
    exact isFinalized
  rw [releaseStatement, settleStatement]
  split
  · exact kept id'
  · rw [state?_settleConnection, dropStatement, if_pos isFinalized]
    exact kept id'

theorem Careful.finalize_state? {motion : Motion library} {allowed : Act → Prop} {id : StatementId}
    (careful : Careful motion allowed conduct id.connection)
    (isLive : session.isFinalized id = false) (id' : StatementId)
    (about : id'.connection = id.connection) :
    (session.finalize conduct id).2.state? id' =
      if id = id' then some .finalized else session.state? id' := by
  obtain ⟨statement, code, world, paused, -, -, same, -, ended⟩ := careful.finalize_eq isLive
  have kept : paused.state? id' = (session.setState id .finalized).state? id' := by
    obtain ⟨connection, index⟩ := id'
    cases about
    exact congrArg (Option.map StatementHandle.state) (same.statement index)
  have state : paused.state? id' = if id = id' then some .finalized else session.state? id' := by
    rw [kept, setState_state? isLive]
    split <;> simp
  rw [ended]
  split
  · exact state
  · exact ((quiet_check conduct _ id.connection statement.sql code).state? id').trans state

/-- The statement of a query came and went. -/
structure Spent (session ended : Session library) (id : StatementId) : Prop where
  isNew : session.state? id = none
  finalized : ended.state? id = some .finalized
  /-- One call of the library did it. -/
  once : releases (.statement id) ended.log = 1

/-- The end of a query, after which its statement is finalized whatever code was returned. -/
theorem spent_of_isLive {id : StatementId} {left : Session library} (reachable : left.IsReachable)
    (isLive : left.isFinalized id = false) (keeps : Keeps conduct other id.connection)
    (isNew : session.state? id = none) :
    Spent session ((left.finalize conduct id).2.releaseStatement conduct id) id ∧
      Kept other id.connection (some id) left
        ((left.finalize conduct id).2.releaseStatement conduct id) := by
  have careful := Own.careful keeps
  have states := careful.finalize_state? isLive
  have finalized : (left.finalize conduct id).2.state? id = some .finalized :=
    (states id rfl).trans (if_pos rfl)
  have isFinalized : (left.finalize conduct id).2.isFinalized id = true := by
    rw [isFinalized_eq, finalized]
    rfl
  have released := state?_releaseStatement_of_isFinalized isFinalized conduct
  have keepsAll : Keeps conduct (fun _ => True) id.connection := keeps.mono fun _ _ => trivial
  have reachable : ((left.finalize conduct id).2.releaseStatement conduct id).IsReachable := by
    refine reachable.evolves ?_
    exact (Evolves.single (.perform (.finalize id)) rfl trivial keepsAll left).trans
      (.single (.releaseStatement id) rfl trivial keepsAll _)
  refine ⟨⟨isNew, (released id).trans finalized, ?_⟩, .of_path ?_ fun id' about different => ?_⟩
  · exact reachable.releasedOnce.releases_statement ((released id).trans finalized)
  · exact (careful.finalize_path ⟨.perform (.finalize id), .inl rfl, .inl rfl⟩).trans
      (careful.releaseStatement_path ⟨.releaseStatement id, .inl rfl, .inr (.inl rfl)⟩)
  · exact (released id').trans ((states id' about).trans
      (if_neg fun same => different (congrArg some same)))

/-! ### Queries -/

/-- What comes of a query whose block came to a result and left a session. -/
structure Concluded (other : Act → Prop) (id : StatementId) (session : Session library)
    (result : Except Failure α) (left : Session library) (ended : Except Failure α × Session library) :
    Prop where
  spent : Spent session ended.2 id
  others : Kept other id.connection (some id) left ended.2
  aborted (message : String) (isAborted : result = .error (.aborted message)) : ended.1 = result
  result (reports : Throughout ReportsFailure ended.2.log) : ended.1 = result

/-- How a query ends, whatever its block is. The block takes part in the last way only, and there it
runs once, on the rows of the statement that was prepared and given its values. It can do anything
but end that statement. -/
inductive Queried (conduct : Conduct library) (other : Act → Prop) (session : Session library)
    (connection : Nat) (sql : String) (values : List Value) :
    (Block library α → Except Failure α × Session library) → Prop
  | unprepared {error : Error} {refused : Session library}
      (failed : session.prepare conduct connection sql = (.error error, refused))
      (kept : Kept other connection none session refused) :
      Queried conduct other session connection sql values
        fun _ => (.error (.refused error), refused)
  | unbound {id : StatementId} {error : Error} {prepared bound ended : Session library}
      (made : session.prepare conduct connection sql = (.ok id, prepared))
      (failed : prepared.bindValues conduct id values = (.error error, bound))
      (spent : Spent session ended id) (others : Kept other connection (some id) session ended) :
      Queried conduct other session connection sql values
        fun _ => (.error (.refused error), ended)
  | ran {id : StatementId} {prepared bound : Session library}
      (made : session.prepare conduct connection sql = (.ok id, prepared))
      (given : prepared.bindValues conduct id values = (.ok (), bound))
      (others : Kept other connection (some id) session bound)
      (finish : Except Failure α × Session library → Except Failure α × Session library)
      (concluded : ∀ result left, Evolves (fun act => ¬act.Ends id) bound left →
        Concluded other id session result left (finish (result, left))) :
      Queried conduct other session connection sql values
        fun block => finish (block (.ofStatement id) bound)

theorem leaveStatement_of_isLive {id : StatementId} (isLive : session.isFinalized id = false)
    (conduct : Conduct library) :
    session.leaveStatement conduct id =
      (session.finalize conduct id).2.releaseStatement conduct id := by
  rw [leaveStatement, if_neg (by rw [isLive]; exact Bool.false_ne_true)]

/-- The way out of a query after its block. -/
def finishQuery (conduct : Conduct library) (id : StatementId) :
    Except Failure α × Session library → Except Failure α × Session library
  | (.error (.aborted message), session) =>
    (.error (.aborted message), session.leaveStatement conduct id)
  | (result, session) =>
    match session.finalize conduct id with
    | (.error error, session) => (.error (.refused error), session.releaseStatement conduct id)
    | (.ok (), session) => (result, session.releaseStatement conduct id)

theorem finishQuery_of_completed {id : StatementId} {result : Except Failure α}
    (completed : ∀ message, result ≠ .error (.aborted message)) (left : Session library) :
    finishQuery conduct id (result, left) =
      (match (left.finalize conduct id).1 with
        | .error error => .error (.refused error)
        | .ok () => result,
        (left.finalize conduct id).2.releaseStatement conduct id) := by
  unfold finishQuery
  split
  · rename_i same
    cases same
    exact absurd rfl (completed _)
  · rename_i same
    cases same
    rcases left.finalize conduct id with ⟨_ | _, _⟩ <;> rfl

theorem concluded_of_evolves {id : StatementId} {bound left : Session library}
    (reachable : bound.IsReachable) (isLive : bound.isFinalized id = false)
    (keeps : Keeps conduct other id.connection) (isNew : session.state? id = none)
    (result : Except Failure α) (evolves : Evolves (fun act => ¬act.Ends id) bound left) :
    Concluded other id session result left (finishQuery conduct id (result, left)) := by
  have isLive : left.isFinalized id = false :=
    (evolves.path (.any library)).isLive (fun _ spares => spares) isLive
  have reachable : left.IsReachable := reachable.evolves (evolves.mono fun _ _ => trivial)
  obtain ⟨spent, others⟩ := spent_of_isLive reachable isLive keeps isNew
  by_cases completed : ∀ message, result ≠ .error (.aborted message)
  · rw [finishQuery_of_completed completed]
    refine ⟨spent, others, fun message isAborted => absurd isAborted (completed message), ?_⟩
    intro reports
    have careful := Own.careful keeps
    have released : Path (.any library) (Own other id.connection) (left.finalize conduct id).2
        ((left.finalize conduct id).2.releaseStatement conduct id) :=
      careful.releaseStatement_path ⟨.releaseStatement id, .inl rfl, .inr (.inl rfl)⟩
    have ok := finalize_ok reachable (keeps.mono fun _ _ => trivial) isLive
      (reports.suffix released.log_suffix)
    rw [ok]
  · obtain ⟨message, isAborted⟩ := Classical.not_forall_not.mp completed
    subst isAborted
    have left' : finishQuery conduct id (.error (.aborted message), left) =
        ((.error (.aborted message) : Except Failure α),
          (left.finalize conduct id).2.releaseStatement conduct id) :=
      congrArg _ (leaveStatement_of_isLive isLive conduct)
    rw [left']
    exact ⟨spent, others, fun _ _ => rfl, fun _ => rfl⟩

/-- Whatever callers did before, and whatever a query is asked, it ends in one of the three ways. -/
theorem query_concludes (reachable : session.IsReachable) (keeps : Keeps conduct other connection)
    (sql : String) (values : List Value) :
    Queried conduct other session connection sql values
      (session.query (α := α) conduct connection sql values) := by
  have keepsAll : Keeps conduct (fun _ => True) connection := keeps.mono fun _ _ => trivial
  have careful := Own.careful keeps
  rcases made : session.prepare conduct connection sql with ⟨error | id, prepared⟩
  · have ended : session.query (α := α) conduct connection sql values =
        fun _ => (.error (.refused error), prepared) := by
      funext block
      simp only [query, made]
    rw [ended]
    refine .unprepared made (.of_path ?_ fun id about _ => ?_)
    · have path : Path (.any library) (Own other connection) session
          (session.prepare conduct connection sql).2 := careful.prepare_path sql
      rw [made] at path
      exact path
    · obtain ⟨_, -, kept⟩ | ⟨_, -, -, ok, -⟩ := careful.prepare_cases session sql
      · rw [made] at kept
        exact kept id about
      · rw [made] at ok
        cases ok
  · obtain ⟨rfl, isNew, underway⟩ := underway_of_prepare reachable keeps made
    have bound := underway.bound keepsAll values
    rcases given : prepared.bindValues conduct id values with ⟨error | _, left⟩ <;>
      rw [given] at bound
    · obtain ⟨spent, others⟩ := spent_of_isLive bound.reachable bound.isLive keeps isNew
      have ended : session.query (α := α) conduct id.connection sql values =
          fun _ => (.error (.refused error),
            (left.finalize conduct id).2.releaseStatement conduct id) := by
        funext block
        simp only [query, made, given, leaveStatement_of_isLive bound.isLive]
      rw [ended]
      exact .unbound made given spent (bound.others.trans others)
    · have ended : session.query (α := α) conduct id.connection sql values =
          fun block => finishQuery conduct id (block (.ofStatement id) left) := by
        funext block
        simp only [query, made, given]
        rfl
      rw [ended]
      exact .ran made given bound.others (finishQuery conduct id) fun result _ evolves =>
        concluded_of_evolves bound.reachable bound.isLive keeps isNew result evolves

/-- A library in which every statement has rows without end, and 7 in every column. -/
def endless : Library :=
  Native.scripted fun _ call =>
    match call with
    | .step _ => (100 : Int32)
    | .columnInt64 _ _ => (7 : Int64)
    | call => call.uneventful

/-- Reads the first row and leaves the others. -/
def firstRow : Block endless Int64 := fun rows session =>
  let (_, rows, session) := rows.next (.byRules []) session
  match rows.read (.byRules []) .long 0 session with
  | (.ok (.long n), session) => (.ok n, session)
  | (_, session) => (.error (.aborted "no row"), session)

/-- A query whose block stops early has the block's result, and its statement is finalized. -/
theorem query_concludes_early :
    let session := (withCapacity endless 1).runAll [] [.perform (.openWith .inMemory)]
    let ended := session.query (.byRules []) 0 "SELECT ?" [.int 3] firstRow
    Queried (α := Int64) (.byRules []) (fun _ => True) session 0 "SELECT ?" [.int 3]
        (session.query (.byRules []) 0 "SELECT ?" [.int 3]) ∧
      ended.1.toOption = some 7 ∧ ended.2.state? ⟨0, 0⟩ = some .finalized := by
  intro session ended
  exact ⟨query_concludes (isReachable_runAll 1 [] _) (fun _ _ _ => .rest) _ _, by decide +kernel,
    by decide +kernel⟩

end SqliteBridge.Session
