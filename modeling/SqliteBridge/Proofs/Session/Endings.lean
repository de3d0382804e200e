import SqliteBridge.Native.Scripted
import SqliteBridge.Proofs.Session.Record
import SqliteBridge.Proofs.Session.Tokens

/-! What is closed or finalized stays so. What is asked of it after that is refused before anything
is done. -/
namespace SqliteBridge.Session

open Native (Call Library)

variable {library : Library} {motion : Motion library} {allowed : Act → Prop}
  {conduct : Conduct library} {session before after : Session library} {α : Type}

/-! ### Handles that stay ended -/

/-- What a turn can do to the state of a statement. -/
theorem Turn.state?_cases (turn : Turn motion allowed before after) (id : StatementId) :
    after.state? id = before.state? id ∨
    (before.state? id = none ∧ after.state? id = some .prepared) ∨
    (before.isFinalized id = false ∧ ∃ state, after.state? id = some state ∧
      (state = .finalized → ∃ act, allowed act ∧ act.Ends id)) := by
  have set {other : StatementId} (isLive : before.isFinalized other = false)
      {state : StatementState}
      (ends : state = .finalized → ∃ act, allowed act ∧ act.Ends other) :
      (before.setState other state).state? id = before.state? id ∨
        (before.isFinalized id = false ∧ ∃ state', (before.setState other state).state? id =
          some state' ∧ (state' = .finalized → ∃ act, allowed act ∧ act.Ends id)) := by
    rw [setState_state? isLive]
    split
    · rename_i same
      subst same
      exact .inr ⟨isLive, state, rfl, ends⟩
    · exact .inl rfl
  cases turn with
  | enters | leaves | asks | answers | connectionToken | statementToken | disposesConnection
  | disposesStatement => exact .inl rfl
  | steps other code world touched guard =>
    exact (set guard.isLive fun isEnd => absurd isEnd (stateAfterStep_ne_finalized code)).imp_right
      .inr
  | resets other code world touched guard =>
    have live : StatementState.prepared ≠ .finalized := by decide
    exact (set guard.isLive fun isEnd => absurd isEnd live).imp_right .inr
  | destroys other ends isLive => exact (set isLive fun _ => ends).imp_right .inr
  | prepares other sql preparation world touched found isOpen next success =>
    rw [state?_addStatement (before.returned (.prepareV2 other sql) preparation world) found next]
    split
    · rename_i same
      subst same
      refine .inr (.inl ⟨?_, rfl⟩)
      rw [state?, statement?, found, Option.bind_some, next, List.getElem?_eq_none (Nat.le_refl _)]
      rfl
    · exact .inl rfl
  | opens path flags opening opened attempt =>
    exact .inl ((state?_addConnection path id).trans (state?_congr attempt.connections id))
  | fails path flags opening opened attempt => exact .inl (state?_congr attempt.connections id)
  | closes other =>
    rw [state?_congr (connections_dropCallback _ _), state?_setAddress]
    exact .inl (before.state?_markClosed other id)
  | authorizes other callback? =>
    rw [state?_congr (connections_dropCallback _ _), state?_setAddress]
    exact .inl (state?_congr (connections_box before callback?) id)
  | declines other callback? =>
    rw [state?_congr (connections_dropCallback _ _)]
    exact .inl (state?_congr (connections_box before callback?) id)
  | releasesConnection other => exact .inl (before.state?_releaseConnection other id)
  | releasesStatement other => exact .inl (before.state?_releaseStatement other id)

/-- What a turn can do to a connection that was opened. -/
theorem Turn.isClosed_cases (turn : Turn motion allowed before after) {id : Nat}
    (isOld : id < before.connections.length) :
    after.isClosed id = before.isClosed id ∨ after.isClosed id = true := by
  cases turn with
  | enters | leaves | asks | answers | connectionToken | statementToken | disposesConnection
  | disposesStatement => exact .inl rfl
  | steps other | resets other | destroys other | releasesStatement other =>
    exact .inl (before.isClosed_updateStatement other _ id)
  | prepares other =>
    exact .inl (before.isClosed_updateConnection _ id _ fun _ => rfl)
  | opens path flags opening opened attempt =>
    rw [isClosed_addConnection, attempt.connections, if_neg (Nat.ne_of_lt isOld)]
    exact .inl (isClosed_congr attempt.connections id)
  | fails path flags opening opened attempt => exact .inl (isClosed_congr attempt.connections id)
  | closes other =>
    rw [isClosed_congr (connections_dropCallback _ _), isClosed_setAddress]
    by_cases same : id = other
    · subst same
      exact .inr (before.isClosed_markClosed id)
    · exact .inl (isClosed_markClosed_of_ne same)
  | authorizes other callback? =>
    rw [isClosed_congr (connections_dropCallback _ _), isClosed_setAddress]
    exact .inl (isClosed_congr (connections_box before callback?) id)
  | declines other callback? =>
    rw [isClosed_congr (connections_dropCallback _ _)]
    exact .inl (isClosed_congr (connections_box before callback?) id)
  | releasesConnection other =>
    exact .inl (before.isClosed_updateConnection other id _ fun _ => rfl)

theorem Path.isClosed (path : Path motion allowed before after) {id : Nat}
    (isOld : id < before.connections.length) (isClosed : before.isClosed id = true) :
    after.isClosed id = true ∧ id < after.connections.length := by
  induction path with
  | refl => exact ⟨isClosed, isOld⟩
  | tail _ turn ih =>
    obtain ⟨isClosed, isOld⟩ := ih
    refine ⟨?_, Nat.lt_of_lt_of_le isOld turn.length_le⟩
    obtain same | closed := turn.isClosed_cases isOld
    · exact same.trans isClosed
    · exact closed

theorem Path.state?_finalized (path : Path motion allowed before after) {id : StatementId}
    (finalized : before.state? id = some .finalized) : after.state? id = some .finalized := by
  induction path with
  | refl => exact finalized
  | tail _ turn ih =>
    obtain same | ⟨isNew, -⟩ | ⟨isLive, -⟩ := turn.state?_cases id
    · exact same.trans ih
    · rw [ih] at isNew
      cases isNew
    · rw [isFinalized_eq, ih] at isLive
      cases isLive

/-- A statement that nothing is allowed to end lives on. -/
theorem Path.isLive (path : Path motion allowed before after) {id : StatementId}
    (unending : ∀ act, allowed act → ¬act.Ends id) (isLive : before.isFinalized id = false) :
    after.isFinalized id = false := by
  induction path with
  | refl => exact isLive
  | tail _ turn ih =>
    obtain ⟨state, present, live⟩ := isFinalized_eq_false_iff_state?.mp ih
    obtain same | ⟨isNew, -⟩ | ⟨-, state', told, ends⟩ := turn.state?_cases id
    · exact isFinalized_eq_false_iff_state?.mpr ⟨state, same.trans present, live⟩
    · rw [isNew] at present
      cases present
    · refine isFinalized_eq_false_iff_state?.mpr ⟨state', told, fun isEnd => ?_⟩
      obtain ⟨act, isAllowed, isEnd⟩ := ends isEnd
      exact unending act isAllowed isEnd

/-! ### Refusals -/

/-- A request is refused with the code of a misuse, and nothing happens. -/
def Refuses (conduct : Conduct library) (session : Session library) (request : Request) : Prop :=
  ∃ error, session.perform conduct request = (.error error, session) ∧
    error.resultCode? = some .misuse

theorem whileOpen_of_isClosed {id : Nat} (isClosed : session.isClosed id = true)
    (operation : ConnectionHandle → Except Error α × Session library) :
    session.whileOpen id operation = session.misuse "connection is closed" := by
  unfold whileOpen
  cases found : session.connection? id with
  | none => rfl
  | some connection =>
    have closed : connection.isClosed = true := by
      simpa [Session.isClosed, found] using isClosed
    exact if_pos closed

theorem onStatement_of_isFinalized {id : StatementId} (isFinalized : session.isFinalized id = true)
    (operation : StatementHandle → Except Error α × Session library) :
    session.onStatement id operation = session.misuse "statement is finalized" := by
  unfold onStatement
  cases found : session.statement? id with
  | none => rfl
  | some statement =>
    have finalized : statement.state = .finalized := by
      simpa [Session.isFinalized, found] using isFinalized
    exact if_pos finalized

/-- An operation on a statement of a closed connection, in words that depend on the statement. -/
theorem onStatement_of_isClosed {id : StatementId}
    (isClosed : session.isClosed id.connection = true) :
    ∃ message, ∀ {α : Type} (operation : StatementHandle → Except Error α × Session library),
      session.onStatement id operation = session.misuse message := by
  cases isFinalized : session.isFinalized id with
  | true =>
    exact ⟨_, fun operation => onStatement_of_isFinalized isFinalized operation⟩
  | false =>
    obtain ⟨statement, found, live⟩ := session.isFinalized_eq_false_iff.mp isFinalized
    refine ⟨"connection is closed", fun operation => ?_⟩
    have refused := whileOpen_of_isClosed isClosed fun _ => operation statement
    simp only [onStatement, found, if_neg live, refused]

theorem finalize_of_isFinalized {id : StatementId} (isFinalized : session.isFinalized id = true) :
    session.finalize conduct id = session.misuse "statement is already finalized" := by
  unfold finalize
  cases found : session.statement? id with
  | none => rfl
  | some statement =>
    have finalized : statement.state = .finalized := by
      simpa [Session.isFinalized, found] using isFinalized
    exact if_pos finalized

theorem refuses_of_isClosed {request : Request} {id : Nat} (about : request.target = .connection id)
    (isClosed : session.isClosed id = true) : session.Refuses conduct request := by
  cases request with
  | close other =>
    cases about
    refine ⟨.misuse "connection is already closed", ?_, rfl⟩
    simp only [perform, close, isClosed]
    rfl
  | prepare | errorMessage | errorCode | exec | changes | lastInsertedId | setAuthorizer =>
    cases about
    refine ⟨.misuse "connection is closed", ?_, rfl⟩
    exact congrArg (replying _) (whileOpen_of_isClosed isClosed _)
  | _ => cases about

theorem refuses_of_isFinalized {request : Request} {id : StatementId}
    (about : request.target = .statement id) (isFinalized : session.isFinalized id = true) :
    session.Refuses conduct request := by
  cases request with
  | finalize other =>
    cases about
    exact ⟨.misuse "statement is already finalized",
      congrArg (replying _) (finalize_of_isFinalized isFinalized), rfl⟩
  | step | reset | clearBindings | parameterCount | bind | columnCount | columnName | column =>
    cases about
    refine ⟨.misuse "statement is finalized", ?_, rfl⟩
    exact congrArg (replying _) (onStatement_of_isFinalized isFinalized _)
  | _ => cases about

theorem refuses_of_connection_isClosed {request : Request} {id : StatementId}
    (about : request.target = .statement id) (runs : request ≠ .finalize id)
    (isClosed : session.isClosed id.connection = true) : session.Refuses conduct request := by
  cases request with
  | finalize other =>
    cases about
    exact absurd rfl runs
  | step | reset | clearBindings | parameterCount | bind | columnCount | columnName | column =>
    cases about
    obtain ⟨message, refused⟩ := onStatement_of_isClosed isClosed
    exact ⟨.misuse message, congrArg (replying _) (refused _), rfl⟩
  | _ => cases about

/-! ### The end of a statement -/

theorem lastError_cases (motion : Motion library) (conduct : Conduct library)
    (session : Session library) (id : Nat) (code : Int32) :
    (session.lastError conduct id code).2 = session ∨
      ∃ bytes? world, motion.moves id session.world world ∧
        (session.lastError conduct id code).2 = session.called (.errorMessage id) bytes? world := by
  unfold lastError
  cases session.isClosed id with
  | true => exact .inl rfl
  | false =>
    obtain ⟨bytes?, world, moved, asked⟩ :=
      native_of_compiles_eq_false motion (.errorMessage id) rfl conduct session
    exact .inr ⟨bytes?, world, moved, congrArg Prod.snd asked⟩

theorem fail_cases (motion : Motion library) (conduct : Conduct library)
    (session : Session library) (id : Nat) (sql : String) (code : Int32) :
    (session.fail conduct id sql code : Except Error α × _).2 = session ∨
      ∃ bytes? world, motion.moves id session.world world ∧
        (session.fail conduct id sql code : Except Error α × _).2 =
          session.called (.errorMessage id) bytes? world :=
  lastError_cases motion conduct session id code

theorem check_cases (motion : Motion library) (conduct : Conduct library)
    (session : Session library) (id : Nat) (sql : String) (code : Int32) :
    (session.check conduct id sql code).2 = session ∨
      ∃ bytes? world, motion.moves id session.world world ∧
        (session.check conduct id sql code).2 = session.called (.errorMessage id) bytes? world := by
  unfold check
  split
  · exact .inl rfl
  · exact lastError_cases motion conduct session id code

theorem log_suffix_fail {α : Type} (conduct : Conduct library) (session : Session library) (id : Nat)
    (sql : String) (code : Int32) :
    session.log <:+ (session.fail conduct id sql code : Except Error α × _).2.log := by
  obtain kept | ⟨bytes?, world, -, told⟩ :=
    fail_cases (α := α) (.any library) conduct session id sql code
  · exact kept.symm ▸ List.suffix_refl session.log
  · rw [told]
    exact ⟨[_, _], rfl⟩

theorem log_suffix_check (conduct : Conduct library) (session : Session library) (id : Nat)
    (sql : String) (code : Int32) :
    session.log <:+ (session.check conduct id sql code).2.log := by
  unfold check
  split
  · exact List.suffix_refl _
  · exact log_suffix_fail conduct session id sql code

/-- A statement that is finalized is gone, and so is its token, whatever code is returned. -/
structure Destroyed (id : StatementId) (before after : Session library) : Prop where
  isFinalized : after.isFinalized id = true
  isRecorded : .enters (.finalize id) ∈ after.log
  reference : after.statementTokens.reference id = .disposed
  token (token : Handle.Token) (had : before.statementTokens.reference id = .live token) :
    after.statementTokens.table.get? token = none

theorem Destroyed.called {id : StatementId} (destroyed : Destroyed id before after) (call : Call)
    (result : call.Result) (world : library.World) :
    Destroyed id before (after.called call result world) :=
  ⟨destroyed.isFinalized, List.mem_cons_of_mem _ (List.mem_cons_of_mem _ destroyed.isRecorded),
    destroyed.reference, destroyed.token⟩

theorem Careful.finalize_eq {id : StatementId}
    (careful : Careful motion allowed conduct id.connection)
    (isLive : session.isFinalized id = false) :
    ∃ statement code world paused, session.statement? id = some statement ∧
      Interlude motion allowed id.connection
        ((session.setState id .finalized).record (.enters (.finalize id))) paused ∧
      SameHandles id.connection (session.setState id .finalized) paused ∧
      motion.moves id.connection paused.world world ∧
      session.finalize conduct id =
        if statement.state = .error then
          (.ok (), { paused.returned (.finalize id) code world with
            statementTokens := paused.statementTokens.disposeToken id })
        else { paused.returned (.finalize id) code world with
          statementTokens := paused.statementTokens.disposeToken id }.check conduct id.connection
            statement.sql code := by
  obtain ⟨code, world, paused, interlude, same, moved, called⟩ := careful.destroy_interlude isLive
  obtain ⟨statement, found, live⟩ := session.isFinalized_eq_false_iff.mp isLive
  refine ⟨statement, code, world, paused, found, interlude, same, moved, ?_⟩
  simp only [finalize, found, if_neg live, called]
  rfl

theorem Careful.finalize_destroyed {id : StatementId}
    (careful : Careful motion allowed conduct id.connection) (matched : session.TokensMatched)
    (isLive : session.isFinalized id = false) :
    Destroyed id session (session.finalize conduct id).2 := by
  obtain ⟨statement, code, world, paused, found, interlude, same, moved, ended⟩ :=
    careful.finalize_eq isLive
  have matched : paused.TokensMatched :=
    (interlude.path careful.touched).tokensMatched ⟨matched.connections, matched.statements⟩
  have retired := Handle.Population.disposeToken_retired matched.statements id
  have isOld : id.connection < (session.setState id .finalized).connections.length := by
    simpa [setState, updateStatement] using lt_length_of_isFinalized isLive
  have gone : Destroyed id session
      { paused.returned (.finalize id) code world with
        statementTokens := paused.statementTokens.disposeToken id } := by
    refine ⟨?_, ?_, ?_, fun token had => ?_⟩
    · exact (same.isFinalized id.index).trans (session.isFinalized_setState id)
    · exact List.mem_cons_of_mem _ ((interlude.logGrows isOld).suffix.subset List.mem_cons_self)
    · exact (retired.reference_eq id).trans (if_pos rfl)
    · have had : paused.statementTokens.reference id = .live token :=
        (same.statementToken id.index).trans had
      exact (retired.get?_eq matched.statements had token).trans (if_pos rfl)
  rw [ended]
  split
  · exact gone
  · obtain kept | ⟨bytes?, later, -, told⟩ := check_cases motion conduct _ id.connection _ code
    · rw [kept]
      exact gone
    · rw [told]
      exact gone.called _ bytes? later

/-! ### Runs -/

/-- What is ended is ended for good, and a misuse changes nothing. -/
structure Final (session : Session library) : Prop where
  staysClosed (later : Session library) (evolves : Evolves (fun _ => True) session later) (id : Nat)
    (isOld : id < session.connections.length) (isClosed : session.isClosed id = true) :
    later.isClosed id = true
  staysFinalized (later : Session library) (evolves : Evolves (fun _ => True) session later)
    (id : StatementId) (finalized : session.state? id = some .finalized) :
    later.state? id = some .finalized
  closed (conduct : Conduct library) (request : Request) (id : Nat)
    (about : request.target = .connection id) (isClosed : session.isClosed id = true) :
    session.Refuses conduct request
  /-- A statement of a closed connection can only be finalized. -/
  statement (conduct : Conduct library) (request : Request) (id : StatementId)
    (about : request.target = .statement id) (isClosed : session.isClosed id.connection = true)
    (other : request ≠ .finalize id) : session.Refuses conduct request
  finalized (conduct : Conduct library) (request : Request) (id : StatementId)
    (about : request.target = .statement id) (isFinalized : session.isFinalized id = true) :
    session.Refuses conduct request
  /-- Also if its connection is closed. -/
  destroyed (conduct : Conduct library) (id : StatementId)
    (keeps : Keeps conduct (fun _ => True) id.connection)
    (isLive : session.isFinalized id = false) :
    Destroyed id session (session.finalize conduct id).2

theorem run_endings (reachable : session.IsReachable) : session.Final where
  staysClosed later evolves id isOld isClosed :=
    ((evolves.path (.any library)).isClosed isOld isClosed).1
  staysFinalized later evolves id finalized :=
    (evolves.path (.any library)).state?_finalized finalized
  closed conduct request id about isClosed := refuses_of_isClosed about isClosed
  statement conduct request id about isClosed other :=
    refuses_of_connection_isClosed about other isClosed
  finalized conduct request id about isFinalized := refuses_of_isFinalized about isFinalized
  destroyed conduct id keeps isLive := by
    have careful : Careful (.any library) (fun _ => True) conduct id.connection :=
      keeps.careful (.any library) ⟨.releaseStatement id, trivial, rfl⟩
    exact careful.finalize_destroyed reachable.tokensMatched isLive

/-- A statement whose connection was closed is not stepped, and it can be finalized. -/
theorem run_endings_closed :
    let session := (withCapacity (Native.scripted fun _ => Call.uneventful) 1).runAll []
      [.perform (.openWith .inMemory), .perform (.prepare 0 "SELECT 1"), .statementToken ⟨0, 0⟩,
        .perform (.close 0)]
    session.Refuses (.byRules []) (.step ⟨0, 0⟩) ∧
      Destroyed ⟨0, 0⟩ session (session.finalize (.byRules []) ⟨0, 0⟩).2 := by
  intro session
  have final := run_endings (isReachable_runAll 1 [] _ : session.IsReachable)
  exact ⟨final.statement _ _ ⟨0, 0⟩ rfl (by decide) (by decide),
    final.destroyed _ _ (fun _ _ _ => .rest) (by decide)⟩

end SqliteBridge.Session
