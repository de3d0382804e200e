import SqliteBridge.Proofs.Session.Endings

/-! Steps of a statement. A step that passes the guards runs the statement in the library, whatever
its state, and leaves it in the state of the code that is returned. -/
namespace SqliteBridge.Session

open Native (Call Library)

variable {library : Library} {motion : Motion library} {allowed : Act → Prop}
  {conduct : Conduct library} {session before after : Session library} {α : Type}

theorem stateAfterStep_eq_row_iff {code : Int32} :
    stateAfterStep code = .row ↔ (ResultCode.mk code).primary = .row := by
  unfold stateAfterStep
  split
  · rename_i row
    simp [row]
  · rename_i notRow
    split <;> simp [notRow]

theorem primary_of_stateAfterStep_eq_done {code : Int32} (done : stateAfterStep code = .done) :
    (ResultCode.mk code).primary = .done := by
  unfold stateAfterStep at done
  split at done
  · cases done
  · split at done
    · assumption
    · cases done

theorem stateAfterStep_ne_prepared (code : Int32) : stateAfterStep code ≠ .prepared := by
  unfold stateAfterStep
  split
  · simp
  · split <;> simp

theorem state?_fail (conduct : Conduct library) (session : Session library) (id : Nat) (sql : String)
    (code : Int32) (statement : StatementId) :
    (session.fail conduct id sql code : Except Error α × _).2.state? statement =
      session.state? statement := by
  obtain kept | ⟨bytes?, world, -, told⟩ :=
    fail_cases (α := α) (.any library) conduct session id sql code
  · rw [kept]
  · rw [told]
    rfl

theorem SameHandles.state? {id : StatementId} (same : SameHandles id.connection before after) :
    after.state? id = before.state? id :=
  congrArg _ (same.statement id.index)

/-- The guard of an open connection lets every operation pass. -/
theorem whileOpen_of_isOpen {id : Nat} (isOpen : session.isClosed id = false) :
    ∃ connection, session.connection? id = some connection ∧ connection.isClosed = false ∧
      ∀ {α : Type} (operation : ConnectionHandle → Except Error α × Session library),
        session.whileOpen id operation = operation connection := by
  obtain ⟨connection, found, open'⟩ := session.isClosed_eq_false_iff.mp isOpen
  refine ⟨connection, found, open', fun operation => ?_⟩
  simp [whileOpen, found, open']

theorem onStatement_of_canRun {id : StatementId} (guard : session.CanRun id) :
    ∃ statement, session.statement? id = some statement ∧ statement.state ≠ .finalized ∧
      ∀ {α : Type} (operation : StatementHandle → Except Error α × Session library),
        session.onStatement id operation = operation statement := by
  obtain ⟨statement, found, live⟩ := session.isFinalized_eq_false_iff.mp guard.isLive
  obtain ⟨connection, -, -, passed⟩ := whileOpen_of_isOpen guard.isOpen
  refine ⟨statement, found, live, fun operation => ?_⟩
  simp [onStatement, found, live, passed]

/-- Outside its guards an operation on a statement is refused. -/
theorem onStatement_of_not_canRun {id : StatementId} (guard : ¬session.CanRun id) :
    ∃ message, ∀ {α : Type} (operation : StatementHandle → Except Error α × Session library),
      session.onStatement id operation = session.misuse message := by
  cases isFinalized : session.isFinalized id with
  | true => exact ⟨_, fun operation => onStatement_of_isFinalized isFinalized operation⟩
  | false =>
    exact onStatement_of_isClosed
      (eq_true_of_ne_false fun isOpen => guard ⟨isFinalized, isOpen⟩)

theorem step_of_not_canRun (conduct : Conduct library) {id : StatementId}
    (guard : ¬session.CanRun id) :
    ∃ message, session.step conduct id = (.error (.misuse message), session) := by
  obtain ⟨message, refused⟩ := onStatement_of_not_canRun guard
  exact ⟨message, by rw [step, refused]; rfl⟩

theorem replying_eq_error {embed : α → Reply} {outcome : Except Error α × Session library}
    {error : Error} (refused : (replying embed outcome).1 = .error error) :
    outcome.1 = .error error := by
  rcases outcome with ⟨_ | _, _⟩
  · exact congrArg Except.error (Except.error.inj refused)
  · cases refused

theorem replying_eq_ok {embed : α → Reply} {outcome : Except Error α × Session library}
    {reply : Reply} (replied : (replying embed outcome).1 = .ok reply) :
    ∃ a, outcome.1 = .ok a ∧ reply = embed a := by
  rcases outcome with ⟨_ | a, _⟩
  · cases replied
  · exact ⟨a, rfl, (Except.ok.inj replied).symm⟩

/-- The middle of a call, from its entry to the state in which it returns. -/
structure Passage (motion : Motion library) (allowed : Act → Prop) (call : Call)
    (session paused : Session library) (world : library.World) : Prop where
  interlude : Interlude motion allowed call.connection (session.record (.enters call)) paused
  same : SameHandles call.connection session paused
  moved : motion.moves call.connection paused.world world

theorem Careful.step_eq {id : StatementId} (careful : Careful motion allowed conduct id.connection)
    (guard : session.CanRun id) :
    ∃ statement code world paused, session.statement? id = some statement ∧
      Passage motion allowed (.step id) session paused world ∧
      session.step conduct id =
        if stateAfterStep code = .error then
          ((paused.returned (.step id) code world).setState id .error).fail conduct id.connection
            statement.sql code
        else
          (.ok ⟨code⟩, (paused.returned (.step id) code world).setState id (stateAfterStep code)) := by
  obtain ⟨code, world, paused, interlude, same, moved, called⟩ :=
    careful.native_interlude (.step id) (lt_length_of_isClosed guard.isOpen)
  obtain ⟨statement, found, -, passed⟩ := onStatement_of_canRun guard
  refine ⟨statement, code, world, paused, found, ⟨interlude, same, moved⟩, ?_⟩
  rw [step, passed]
  simp only [called]
  split
  · rename_i failed
    rw [failed]
  · rfl

theorem Careful.reset_eq {id : StatementId} (careful : Careful motion allowed conduct id.connection)
    (guard : session.CanRun id) :
    ∃ statement code world paused, session.statement? id = some statement ∧
      Passage motion allowed (.reset id) session paused world ∧
      session.reset conduct id =
        if statement.state = .error then
          (.ok (), (paused.returned (.reset id) code world).setState id .prepared)
        else ((paused.returned (.reset id) code world).setState id .prepared).check conduct
          id.connection statement.sql code := by
  obtain ⟨code, world, paused, interlude, same, moved, called⟩ :=
    careful.native_interlude (.reset id) (lt_length_of_isClosed guard.isOpen)
  obtain ⟨statement, found, -, passed⟩ := onStatement_of_canRun guard
  refine ⟨statement, code, world, paused, found, ⟨interlude, same, moved⟩, ?_⟩
  rw [reset, passed]
  simp only [called]

end SqliteBridge.Session
