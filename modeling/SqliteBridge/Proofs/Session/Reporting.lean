import SqliteBridge.Native.Scripted
import SqliteBridge.Proofs.Session.Steps

/-! Failures of steps. A step that fails leaves its statement in the state that says so, and as long
as it says so the code of the failure is kept from the results of a reset or of the end. -/
namespace SqliteBridge

open Native (Call Library)

namespace Event

/-- Which failure a statement has after an event, if the event tells: that of a step, or none after
a step that does not fail, after a reset, or before the first step. -/
def failure? (id : StatementId) : Event → Option (Option Int32)
  | leaves (.prepareV2 made _) preparation =>
    if made = id ∧ preparation.code = 0 ∧ preparation.isStatement = true then some none else none
  | leaves (.step other) code =>
    if other = id then some (if Session.stateAfterStep code = .error then some code else none)
    else none
  | leaves (.reset other) _ => if other = id then some none else none
  | _ => none

/-- The statement that a reset or the end has come to, and the code that was returned. -/
def ended? : Event → Option (StatementId × Int32)
  | leaves (.reset id) code => some (id, code)
  | leaves (.finalize id) code => some (id, code)
  | _ => none

/-- An event that tells of a failure tells a state as well, and the one that says so. -/
theorem newState?_of_failure? {id : StatementId} {event : Event} {failure : Option Int32}
    (tells : event.failure? id = some failure) :
    ∃ state, event.newState? id = some state ∧ (failure = none ∨ state = .error) := by
  unfold failure? at tells
  split at tells
  · rw [Option.ite_none_right_eq_some] at tells
    exact ⟨.prepared, if_pos tells.1, .inl (Option.some.inj tells.2).symm⟩
  · rw [Option.ite_none_right_eq_some] at tells
    refine ⟨_, if_pos tells.1, ?_⟩
    have failure := Option.some.inj tells.2
    split at failure
    · rename_i isError
      exact .inr isError
    · exact .inl failure.symm
  · rw [Option.ite_none_right_eq_some] at tells
    exact ⟨.prepared, if_pos tells.1, .inl (Option.some.inj tells.2).symm⟩
  · cases tells

/-- An event that tells a new state of a statement that lives on tells of its failure. -/
theorem failure?_of_newState? {id : StatementId} {event : Event} {state : StatementState}
    (tells : event.newState? id = some state) (live : state ≠ .finalized) :
    ∃ failure, event.failure? id = some failure := by
  unfold newState? at tells
  split at tells
  · rw [Option.ite_none_right_eq_some] at tells
    exact ⟨none, if_pos tells.1⟩
  · rw [Option.ite_none_right_eq_some] at tells
    exact ⟨_, if_pos tells.1⟩
  · rw [Option.ite_none_right_eq_some] at tells
    exact ⟨none, if_pos tells.1⟩
  · rw [Option.ite_none_right_eq_some] at tells
    exact absurd (Option.some.inj tells.2).symm live
  · cases tells

theorem connection_of_failure? {id : StatementId} {event : Event} {failure : Option Int32}
    (tells : event.failure? id = some failure) : event.connection = id.connection := by
  unfold failure? at tells
  split at tells
  · rw [Option.ite_none_right_eq_some] at tells
    exact congrArg StatementId.connection tells.1.1
  · rw [Option.ite_none_right_eq_some] at tells
    exact congrArg StatementId.connection tells.1
  · rw [Option.ite_none_right_eq_some] at tells
    exact congrArg StatementId.connection tells.1
  · cases tells

end Event

namespace Session

variable {library : Library} {motion : Motion library} {allowed : Act → Prop}
  {conduct : Conduct library} {session before after : Session library}

/-- The code of the last step of a statement, if that has failed and there was no reset since. -/
def failureIn (id : StatementId) (log : List Event) : Option Int32 :=
  (log.findSome? (Event.failure? id)).join

/-- A reset and the end of a statement give another code than that of success only after a step
that failed, and then its code. -/
def ReportsFailure (event : Event) (earlier : List Event) : Prop :=
  ∀ ended ∈ event.ended?, ended.2 ≠ 0 → failureIn ended.1 earlier = some ended.2

instance (event : Event) (earlier : List Event) : Decidable (ReportsFailure event earlier) :=
  inferInstanceAs (Decidable
    (∀ ended ∈ event.ended?, ended.2 ≠ 0 → failureIn ended.1 earlier = some ended.2))

/-- A live statement that has a failure is in the state that says so. -/
theorem eq_error_of_failureIn {id : StatementId} {log : List Event} {state : StatementState}
    (known : stateIn id log = some state) (live : state ≠ .finalized) {code : Int32}
    (failed : failureIn id log = some code) : state = .error := by
  induction log with
  | nil => cases failed
  | cons event log ih =>
    rw [stateIn_cons] at known
    rw [failureIn, List.findSome?_cons] at failed
    cases tells : event.failure? id with
    | some failure =>
      obtain ⟨state', told, excused⟩ := Event.newState?_of_failure? tells
      rw [told, Option.some_or] at known
      rw [tells] at failed
      rw [← Option.some.inj known]
      exact excused.resolve_left fun none => by rw [none] at failed; cases failed
    | none =>
      rw [tells] at failed
      cases told : event.newState? id with
      | none =>
        rw [told, Option.none_or] at known
        exact ih known failed
      | some state' =>
        rw [told, Option.some_or] at known
        obtain ⟨failure, tells'⟩ := Event.failure?_of_newState? told
          (Option.some.inj known ▸ live)
        rw [tells] at tells'
        cases tells'

/-- What an interlude adds about the connection of the call is about its callbacks. -/
theorem Interlude.findSome?_eq {β : Type} {id : Nat} {tells : Event → Option β}
    (interlude : Interlude motion allowed id before after) (isOld : id < before.connections.length)
    (own : ∀ event value, tells event = some value →
      event.connection = id ∧ event.isConsultation = false) :
    after.log.findSome? tells = before.log.findSome? tells := by
  refine (interlude.logGrows isOld).findSome?_eq fun event added => ?_
  cases told : tells event with
  | none => rfl
  | some value =>
    obtain ⟨about, isCall⟩ := own event value told
    rw [added about] at isCall
    cases isCall

theorem Interlude.failureIn_eq {id : StatementId}
    (interlude : Interlude motion allowed id.connection before after)
    (isOld : id.connection < before.connections.length) :
    failureIn id after.log = failureIn id before.log := by
  refine congrArg Option.join (interlude.findSome?_eq isOld fun event failure told => ?_)
  refine ⟨Event.connection_of_failure? told, ?_⟩
  cases event <;> first | rfl | cases told

/-! ### Resets and ends -/

/-- A statement that is not in the state of a failed step has no failure. -/
theorem failureIn_eq_none {id : StatementId}
    (known : stateIn id session.log = session.state? id) {statement : StatementHandle}
    (found : session.statement? id = some statement) (live : statement.state ≠ .finalized)
    (excused : statement.state ≠ .error) : failureIn id session.log = none := by
  rw [state?, found] at known
  cases failed : failureIn id session.log with
  | none => rfl
  | some code => exact absurd (eq_error_of_failureIn known live failed) excused

theorem Path.stateIn_eq (path : Path motion allowed before after)
    (known : ∀ id, stateIn id before.log = before.state? id) (id : StatementId) :
    stateIn id after.log = after.state? id := by
  induction path generalizing id with
  | refl => exact known id
  | tail _ turn ih => exact turn.stateIn_eq ih id

theorem IsReachable.stateIn_eq (reachable : session.IsReachable) (id : StatementId) :
    stateIn id session.log = session.state? id := by
  obtain ⟨limit, evolves⟩ := reachable
  exact (evolves.path (.any library)).stateIn_eq (fun _ => rfl) id

/-- The code of the end of a statement, or of a reset, is looked at only if there is no failure. -/
theorem eq_zero_of_reports (event : Event) {log earlier : List Event} {id : StatementId}
    {code : Int32} (reports : Throughout ReportsFailure log) (suffix : (event :: earlier) <:+ log)
    (ended : event.ended? = some (id, code)) (unfailed : failureIn id earlier = none) :
    code = 0 := by
  have reported := reports.of_suffix suffix (id, code) ended
  rw [unfailed] at reported
  exact Decidable.byContradiction fun failed => by cases reported failed

theorem reset_ok (reachable : session.IsReachable) {id : StatementId}
    (keeps : Keeps conduct (fun _ => True) id.connection) (guard : session.CanRun id)
    (reports : Throughout ReportsFailure (session.reset conduct id).2.log) :
    (session.reset conduct id).1 = .ok () := by
  have careful : Careful (.any library) (fun _ => True) conduct id.connection :=
    keeps.careful (.any library) ⟨.releaseStatement id, trivial, rfl⟩
  obtain ⟨statement, code, world, paused, found, passage, reset⟩ := careful.reset_eq guard
  obtain ⟨statement', found', live⟩ := session.isFinalized_eq_false_iff.mp guard.isLive
  cases found.symm.trans found'
  rw [reset] at reports ⊢
  split at reports
  · rename_i isError
    rw [if_pos isError]
  · rename_i excused
    have failure : failureIn id paused.log = none :=
      (passage.interlude.failureIn_eq (lt_length_of_isClosed guard.isOpen)).trans
        (failureIn_eq_none (reachable.stateIn_eq id) found live excused)
    have suffix := log_suffix_check conduct
      ((paused.returned (.reset id) code world).setState id .prepared) id.connection statement.sql code
    have success : code = 0 :=
      eq_zero_of_reports (.leaves (.reset id) code) reports suffix rfl failure
    rw [if_neg excused, check, if_pos success]

theorem finalize_ok (reachable : session.IsReachable) {id : StatementId}
    (keeps : Keeps conduct (fun _ => True) id.connection) (isLive : session.isFinalized id = false)
    (reports : Throughout ReportsFailure (session.finalize conduct id).2.log) :
    (session.finalize conduct id).1 = .ok () := by
  have careful : Careful (.any library) (fun _ => True) conduct id.connection :=
    keeps.careful (.any library) ⟨.releaseStatement id, trivial, rfl⟩
  obtain ⟨statement, code, world, paused, found, interlude, same, moved, ended⟩ :=
    careful.finalize_eq isLive
  obtain ⟨statement', found', live⟩ := session.isFinalized_eq_false_iff.mp isLive
  cases found.symm.trans found'
  rw [ended] at reports ⊢
  split at reports
  · rename_i isError
    rw [if_pos isError]
  · rename_i excused
    have isOld : id.connection < (session.setState id .finalized).connections.length := by
      simpa [setState, updateStatement] using lt_length_of_isFinalized isLive
    have kept : failureIn id paused.log = failureIn id session.log := interlude.failureIn_eq isOld
    have failure := failureIn_eq_none (reachable.stateIn_eq id) found live excused
    have suffix := log_suffix_check conduct { paused.returned (.finalize id) code world with
      statementTokens := paused.statementTokens.disposeToken id } id.connection statement.sql code
    have success : code = 0 :=
      eq_zero_of_reports (.leaves (.finalize id) code) reports suffix rfl (kept.trans failure)
    rw [if_neg excused, check, if_pos success]

/-- Whatever was done before, a reset of a statement that can run succeeds, and so does the end of a
statement: a failure has been reported by the step that failed. -/
theorem failure_reported_once (reachable : session.IsReachable) (id : StatementId)
    (keeps : Keeps conduct (fun _ => True) id.connection) :
    (session.CanRun id → Throughout ReportsFailure (session.reset conduct id).2.log →
      (session.reset conduct id).1 = .ok ()) ∧
    (session.isFinalized id = false →
      Throughout ReportsFailure (session.finalize conduct id).2.log →
      (session.finalize conduct id).1 = .ok ()) :=
  ⟨fun guard reports => reset_ok reachable keeps guard reports,
    fun isLive reports => finalize_ok reachable keeps isLive reports⟩

/-- A library in which every step fails and the failure is told again by a reset and by the end. -/
def overflowing : Library :=
  Native.scripted fun _ call =>
    match call with
    | .step _ => (18 : Int32)
    | .reset _ => (18 : Int32)
    | .finalize _ => (18 : Int32)
    | call => call.uneventful

/-- Two steps that fail, and the end of the statement after its connection was closed. -/
theorem failure_reported_once_closed :
    let session := (withCapacity overflowing 1).runAll []
      [.perform (.openWith .inMemory), .perform (.prepare 0 "SELECT 1"), .perform (.step ⟨0, 0⟩),
        .perform (.step ⟨0, 0⟩), .perform (.close 0)]
    (session.step (.byRules []) ⟨0, 0⟩).1 = .error (.misuse "connection is closed") ∧
      (session.finalize (.byRules []) ⟨0, 0⟩).1 = .ok () :=
  ⟨rfl, (failure_reported_once (isReachable_runAll 1 [] _) ⟨0, 0⟩ fun _ _ _ => .rest).2 (by decide)
    (by decide)⟩

end Session

end SqliteBridge
