import SqliteBridge.Native.Scripted
import SqliteBridge.Proofs.Session.Quiet

/-! The states of a statement. Every request makes one of the transitions of its kind. A step makes
it from every state of a live statement, also from those in which a statement has ended: the library
is called, and whatever it returns is the new state. -/
namespace SqliteBridge.Session

open Native (Call Library)

variable {library : Library} {motion : Motion library} {allowed : Act → Prop}
  {conduct : Conduct library} {session before after : Session library}

/-- The library is called once, and while it runs its callbacks are asked at most. -/
def CallsOnce (call : Call) (result : call.Result) (before after : Session library) : Prop :=
  ∃ between : List Event,
    (.leaves call result :: (between ++ .enters call :: before.log)) <:+ after.log ∧
      ∀ event ∈ between, event.connection = call.connection → event.isConsultation = true

/-- What requests do to the state of a statement that can run. -/
structure Transitions (conduct : Conduct library) (session : Session library) (id : StatementId) :
    Prop where
  /-- From any state to the one that the library reports. -/
  step : ∃ code, CallsOnce (.step id) code session (session.step conduct id).2 ∧
    (session.step conduct id).2.state? id = some (stateAfterStep code)
  reset : (session.reset conduct id).2.state? id = some .prepared
  finalize : (session.finalize conduct id).2.state? id = some .finalized
  other (request : Request) (about : request.target = .statement id)
    (isStep : request ≠ .step id) (isReset : request ≠ .reset id) (isEnd : request ≠ .finalize id) :
    (session.perform conduct request).2.state? id = session.state? id

theorem isQuiet_of_other {request : Request} {id : StatementId}
    (about : request.target = .statement id) (isStep : request ≠ .step id)
    (isReset : request ≠ .reset id) (isEnd : request ≠ .finalize id) : request.isQuiet = true := by
  cases request with
  | step => cases about; exact absurd rfl isStep
  | reset => cases about; exact absurd rfl isReset
  | finalize => cases about; exact absurd rfl isEnd
  | clearBindings | parameterCount | bind | columnCount | columnName | column => rfl
  | _ => cases about

/-- A call is on record with everything that came between its entry and its return. -/
theorem Passage.callsOnce {call : Call} {result : call.Result} {paused : Session library}
    {world : library.World} (passage : Passage motion allowed call session paused world)
    (isOld : call.connection < session.connections.length)
    (log : (.leaves call result :: paused.log) <:+ after.log) : CallsOnce call result session after := by
  obtain ⟨between, grown, isConsultation⟩ := passage.interlude.logGrows isOld
  rw [grown] at log
  exact ⟨between, log, isConsultation⟩

/-- Every statement that can run makes these transitions, whatever the library and the callbacks
do. -/
theorem statement_transitions {id : StatementId} (guard : session.CanRun id)
    (keeps : Keeps conduct (fun _ => True) id.connection) : session.Transitions conduct id := by
  have careful : Careful (.any library) (fun _ => True) conduct id.connection :=
    keeps.careful (.any library) ⟨.releaseStatement id, trivial, rfl⟩
  have isOld : id.connection < session.connections.length := lt_length_of_isClosed guard.isOpen
  refine ⟨?_, ?_, ?_, fun request about isStep isReset isEnd => ?_⟩
  · obtain ⟨statement, code, world, paused, -, passage, stepped⟩ := careful.step_eq guard
    have isLive : (paused.returned (.step id) code world).isFinalized id = false :=
      (guard.kept passage.same).isLive
    rw [stepped]
    split
    · rename_i failed
      refine ⟨code, passage.callsOnce isOld ?_, ?_⟩
      · exact log_suffix_fail conduct
          ((paused.returned (.step id) code world).setState id .error) id.connection statement.sql code
      · rw [state?_fail, state?_setState_self isLive, failed]
    · exact ⟨code, passage.callsOnce isOld (List.suffix_refl _), state?_setState_self isLive _⟩
  · obtain ⟨statement, code, world, paused, -, passage, reset⟩ := careful.reset_eq guard
    have isLive : (paused.returned (.reset id) code world).isFinalized id = false :=
      (guard.kept passage.same).isLive
    rw [reset]
    split
    · exact state?_setState_self isLive _
    · rw [(quiet_check conduct _ id.connection statement.sql code).state? id]
      exact state?_setState_self isLive _
  · obtain ⟨statement, code, world, paused, -, -, same, -, ended⟩ := careful.finalize_eq guard.isLive
    have finalized : paused.state? id = some .finalized :=
      same.state?.trans (state?_setState_self guard.isLive .finalized)
    rw [ended]
    split
    · exact finalized
    · exact ((quiet_check conduct _ id.connection statement.sql code).state? id).trans finalized
  · exact (quiet_perform (isQuiet_of_other about isStep isReset isEnd) conduct session).state? id

/-- The session after a statement was stepped to its end. -/
def stepped : Session (Native.scripted fun _ => Call.uneventful) :=
  (withCapacity _ 1).runAll []
    [.perform (.openWith .inMemory), .perform (.prepare 0 "INSERT INTO t VALUES (7)"),
      .perform (.step ⟨0, 0⟩)]

theorem statement_transitions_stepped :
    stepped.CanRun ⟨0, 0⟩ ∧ Transitions (.byRules []) stepped ⟨0, 0⟩ :=
  ⟨⟨by decide, by decide⟩, statement_transitions ⟨by decide, by decide⟩ fun _ _ _ => .rest⟩

/-- A statement that is done, and is stepped without a reset, is run by the library again. -/
theorem done_statement_steps :
    stepped.state? ⟨0, 0⟩ = some .done ∧
      (stepped.step (.byRules []) ⟨0, 0⟩).1 = .ok ⟨101⟩ ∧
      (stepped.step (.byRules []) ⟨0, 0⟩).2.log =
        .leaves (.step ⟨0, 0⟩) (101 : Int32) :: .enters (.step ⟨0, 0⟩) :: stepped.log :=
  ⟨rfl, rfl, rfl⟩

end SqliteBridge.Session
