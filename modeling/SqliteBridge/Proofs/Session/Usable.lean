import SqliteBridge.Proofs.Session.Tokens
import SqliteBridge.Proofs.Session.Unattended

/-! Usable tokens. As long as no callback is registered, a connection that has a token is open and
a statement that has one is not finalized: a handle that ends gives its token up at once, and one
that is dropped has none. -/
namespace SqliteBridge.Session

open Handle (Token)
open Handle.Population (Guards)
open Native (Library)

variable {library : Library} {session before after : Session library} {id : Nat}

structure Usable (session : Session library) : Prop where
  unattended : session.callbacks = []
  connections : Guards session.connectionTokens (fun id => session.isClosed id = false)
    fun id => id < session.connections.length
  statements : Guards session.statementTokens (fun id => session.isFinalized id = false)
    fun id => (session.state? id).isSome = true

structure SameTokens (before after : Session library) : Prop where
  connections : after.connectionTokens = before.connectionTokens
  statements : after.statementTokens = before.statementTokens

theorem SameTokens.trans {first second third : Session library} (early : SameTokens first second)
    (late : SameTokens second third) : SameTokens first third :=
  ⟨late.connections.trans early.connections, late.statements.trans early.statements⟩

theorem Quiet.sameTokens (quiet : Quiet before after) : SameTokens before after :=
  ⟨quiet.connectionTokens, quiet.statementTokens⟩

theorem Quiet.isFinalized (quiet : Quiet before after) (id : StatementId) :
    after.isFinalized id = before.isFinalized id :=
  isFinalized_congr quiet.connections id

theorem withCapacity_usable (limit : Nat) : (withCapacity library limit).Usable where
  unattended := rfl
  connections := ⟨Handle.Population.withCapacity_matched limit, nofun, fun _ _ => rfl⟩
  statements := ⟨Handle.Population.withCapacity_matched limit, nofun, fun _ _ => rfl⟩

theorem connection_lt_length_of_isSome_state? {id : StatementId}
    (isMade : (session.state? id).isSome = true) : id.connection < session.connections.length := by
  rw [state?, Option.isSome_map, statement?] at isMade
  cases found : session.connection? id.connection with
  | none =>
    rw [found] at isMade
    cases isMade
  | some connection => exact lt_length_of_connection? found

theorem isSome_state?_of_isFinalized {id : StatementId} (isLive : session.isFinalized id = false) :
    (session.state? id).isSome = true := by
  obtain ⟨state, found, -⟩ := isFinalized_eq_false_iff_state?.mp isLive
  rw [found]
  rfl

namespace Usable

theorem quiet (usable : before.Usable) (quiet : Quiet before after) : after.Usable where
  unattended := quiet.callbacks.trans usable.unattended
  connections := quiet.connectionTokens ▸ usable.connections.mono
    (fun id _ _ isOpen => (quiet.isClosed id).trans isOpen)
    fun _ known => quiet.connections ▸ known
  statements := quiet.statementTokens ▸ usable.statements.mono
    (fun id _ _ isLive => (quiet.isFinalized id).trans isLive)
    fun id known => (quiet.state? id) ▸ known

/-! ### Edits -/

variable (usable : session.Usable)

include usable

/-- An edit of connections that keeps tokens and usable handles. -/
theorem edit (unattended : after.callbacks = session.callbacks) (same : SameTokens session after)
    (isOpen : ∀ id token, session.connectionTokens.reference id = .live token →
      session.isClosed id = false → after.isClosed id = false)
    (length : session.connections.length ≤ after.connections.length)
    (isLive : ∀ id token, session.statementTokens.reference id = .live token →
      session.isFinalized id = false → after.isFinalized id = false)
    (isMade : ∀ id, (session.state? id).isSome = true → (after.state? id).isSome = true) :
    after.Usable where
  unattended := unattended.trans usable.unattended
  connections := same.connections ▸ usable.connections.mono isOpen
    fun _ known => Nat.lt_of_lt_of_le known length
  statements := same.statements ▸ usable.statements.mono isLive isMade

theorem setState {id : StatementId} {state : StatementState}
    (keeps : ∀ token, session.statementTokens.reference id = .live token → state ≠ .finalized) :
    (session.setState id state).Usable := by
  refine usable.edit rfl ⟨rfl, rfl⟩ (fun other _ _ isOpen => ?_)
    (Nat.le_of_eq (length_updateConnection session _ _).symm) (fun other token live isLive => ?_)
    fun other isMade => ?_
  · exact (isClosed_updateStatement session id _ other).trans isOpen
  · obtain ⟨state', found, isLive⟩ := isFinalized_eq_false_iff_state?.mp isLive
    rw [isFinalized_eq_false_iff_state?, state?_setState]
    split
    · rename_i same
      subst same
      exact ⟨state, by rw [found]; rfl, keeps token live⟩
    · exact ⟨state', found, isLive⟩
  · rw [state?_setState]
    split
    · rw [Option.isSome_map]
      exact isMade
    · exact isMade

theorem addConnection (path : String) : (session.addConnection path).Usable := by
  have kept {other : Nat} (isOld : other < session.connections.length) :
      SameHandles other session (session.addConnection path) := .of_addConnection path isOld
  refine usable.edit rfl ⟨rfl, rfl⟩ (fun other _ _ isOpen => ?_) ?_
    (fun other token _ isLive => ?_) fun other isMade => ?_
  · exact (kept (lt_length_of_isClosed isOpen)).isClosed.trans isOpen
  · rw [Session.addConnection, List.length_append]
    exact Nat.le_add_right _ _
  · exact ((kept (lt_length_of_isFinalized isLive)).isFinalized other.index).trans isLive
  · exact (kept (connection_lt_length_of_isSome_state? isMade)).state? ▸ isMade

theorem addStatement {connection : ConnectionHandle} (sql : String)
    (found : session.connection? id = some connection) :
    (session.addStatement ⟨id, connection.statements.length⟩ sql).Usable := by
  have state? (other : StatementId) :
      (session.addStatement ⟨id, connection.statements.length⟩ sql).state? other =
        if ⟨id, connection.statements.length⟩ = other then some .prepared
        else session.state? other :=
    state?_addStatement session found rfl sql other
  refine usable.edit rfl ⟨rfl, rfl⟩ (fun other _ _ isOpen => ?_)
    (Nat.le_of_eq (length_updateConnection session _ _).symm) (fun other token _ isLive => ?_)
    fun other isMade => ?_
  · exact (session.isClosed_updateConnection id other (fun handle =>
      { handle with statements := handle.statements ++ [⟨sql, .prepared, true⟩] })
        fun _ => rfl).trans isOpen
  · obtain ⟨state', found, isLive⟩ := isFinalized_eq_false_iff_state?.mp isLive
    rw [isFinalized_eq_false_iff_state?, state?]
    split
    · exact ⟨.prepared, rfl, by decide⟩
    · exact ⟨state', found, isLive⟩
  · rw [state?]
    split
    · rfl
    · exact isMade

/-- A connection that has no token may be closed. -/
theorem shut (untokened : ∀ token, session.connectionTokens.reference id ≠ .live token) :
    ((session.markClosed id).setAddress id none).Usable := by
  have state? (other : StatementId) :
      ((session.markClosed id).setAddress id none).state? other = session.state? other :=
    (state?_setAddress id none other).trans (state?_markClosed id other)
  refine usable.edit rfl ⟨rfl, rfl⟩ (fun other token live isOpen => ?_) ?_
    (fun other token _ isLive => ?_) fun other isMade => ?_
  · have apart : other ≠ id := by
      rintro rfl
      exact untokened token live
    rw [isClosed_setAddress, isClosed, markClosed, connection?_updateConnection_of_ne _ apart]
    exact isOpen
  · simp [setAddress, markClosed]
  · rw [isFinalized_eq, state?, ← isFinalized_eq]
    exact isLive
  · exact (state? other).symm ▸ isMade

theorem disposeConnection (isOpen : session.isClosed id = false) :
    { session with connectionTokens := session.connectionTokens.disposeToken id }.Usable where
  unattended := usable.unattended
  connections := usable.connections.retired (lt_length_of_isClosed isOpen)
    (Handle.Population.disposeToken_retired usable.connections.matched id)
  statements := usable.statements

theorem disposeStatement {id : StatementId} (isLive : session.isFinalized id = false) :
    { session with statementTokens := session.statementTokens.disposeToken id }.Usable where
  unattended := usable.unattended
  connections := usable.connections
  statements := usable.statements.retired (isSome_state?_of_isFinalized isLive)
    (Handle.Population.disposeToken_retired usable.statements.matched id)

/-! ### Operations -/

theorem openWith (conduct : Conduct library) (config : OpenConfig) :
    (session.openWith conduct config).2.Usable := by
  rcases openWith_quiet conduct session config with ⟨_, -, quiet⟩ | ⟨-, quiet⟩
  · exact usable.quiet quiet
  · exact (usable.addConnection config.path).quiet quiet

theorem prepare (conduct : Conduct library) (id : Nat) (sql : String) :
    (session.prepare conduct id sql).2.Usable := by
  rcases prepare_unattended usable.unattended conduct id sql with
    ⟨_, -, quiet⟩ | ⟨connection, found, -, -, quiet⟩
  · exact usable.quiet quiet
  · exact (usable.addStatement sql found).quiet quiet

theorem close (conduct : Conduct library) (id : Nat) : (session.close conduct id).2.Usable := by
  cases isClosed : session.isClosed id with
  | true =>
    rw [Session.close, if_pos isClosed]
    exact usable
  | false =>
    have disposed := usable.disposeConnection isClosed
    refine Usable.quiet (disposed.shut fun token live => ?_)
      (close_unattended usable.unattended conduct isClosed).2
    rw [Handle.Population.reference_disposeToken, if_pos rfl] at live
    cases live

theorem finalize (conduct : Conduct library) (id : StatementId) :
    (session.finalize conduct id).2.Usable := by
  cases isFinalized : session.isFinalized id with
  | true =>
    rw [finalize_of_isFinalized isFinalized]
    exact usable
  | false =>
    have disposed := usable.disposeStatement isFinalized
    refine Usable.quiet (disposed.setState fun token live => ?_)
      (finalize_unattended usable.unattended conduct isFinalized)
    rw [Handle.Population.reference_disposeToken, if_pos rfl] at live
    cases live

theorem step (conduct : Conduct library) (id : StatementId) :
    (session.step conduct id).2.Usable := by
  by_cases guard : session.CanRun id
  · obtain ⟨code, quiet⟩ := step_unattended usable.unattended conduct guard
    exact (usable.setState fun _ _ => stateAfterStep_ne_finalized code).quiet quiet
  · obtain ⟨message, refused⟩ := step_of_not_canRun conduct guard
    rw [refused]
    exact usable

theorem reset (conduct : Conduct library) (id : StatementId) :
    (session.reset conduct id).2.Usable := by
  by_cases guard : session.CanRun id
  · exact (usable.setState fun _ _ => by decide).quiet
      (reset_unattended usable.unattended conduct guard)
  · obtain ⟨message, refused⟩ := onStatement_of_not_canRun guard
    rw [Session.reset, refused]
    exact usable

/-- No request but one that sets an authorizer makes a token stand for a handle that has ended. -/
theorem perform (conduct : Conduct library) {request : Request}
    (isPlain : ∀ id callback?, request ≠ .setAuthorizer id callback?) :
    (session.perform conduct request).2.Usable := by
  cases request with
  | openWith config => exact usable.openWith conduct config
  | close id => exact usable.close conduct id
  | prepare id sql => exact usable.prepare conduct id sql
  | exec id sql => exact usable.quiet (quiet_exec usable.unattended conduct id sql)
  | setAuthorizer id callback? => exact absurd rfl (isPlain id callback?)
  | step id => exact usable.step conduct id
  | reset id => exact usable.reset conduct id
  | finalize id => exact usable.finalize conduct id
  | _ => exact usable.quiet (quiet_perform rfl conduct session)

/-! ### Handles that are let go -/

theorem settleConnection (conduct : Conduct library) (id : Nat) :
    (session.settleConnection conduct id).Usable ∧
      SameTokens session (session.settleConnection conduct id) := by
  unfold Session.settleConnection
  split
  · exact ⟨usable, rfl, rfl⟩
  · rename_i dropped
    rw [Bool.or_eq_true, not_or] at dropped
    have isOpen := eq_false_of_ne_true dropped.2
    obtain ⟨connection, found, -⟩ := session.isClosed_eq_false_iff.mp isOpen
    have shut := (closeNative_unattended usable.unattended conduct isOpen).2
    refine ⟨Usable.quiet (usable.shut fun token live => dropped.1 ?_) shut, shut.connectionTokens,
      shut.statementTokens⟩
    simp [isConnectionReachable, found, hasConnectionToken, live, Handle.Reference.token?]

theorem dropStatement (conduct : Conduct library) {id : StatementId}
    (unreachable : session.isStatementReachable id ≠ true) :
    (session.dropStatement conduct id).Usable ∧
      SameTokens session (session.dropStatement conduct id) := by
  unfold Session.dropStatement
  split
  · exact ⟨usable, rfl, rfl⟩
  · rename_i isLive
    obtain ⟨statement, found, -⟩ :=
      session.isFinalized_eq_false_iff.mp (eq_false_of_ne_true isLive)
    have ended : (session.setState id .finalized).Usable := by
      refine usable.setState fun token live => (unreachable ?_).elim
      simp [isStatementReachable, found, hasStatementToken, live, Handle.Reference.token?]
    have ran := quiet_native (.finalize id) conduct ended.unattended
    exact ⟨ended.quiet ran, ran.connectionTokens, ran.statementTokens⟩

theorem settleStatement (conduct : Conduct library) (id : StatementId) :
    (session.settleStatement conduct id).Usable ∧
      SameTokens session (session.settleStatement conduct id) := by
  unfold Session.settleStatement
  split
  · exact ⟨usable, rfl, rfl⟩
  · rename_i unreachable
    obtain ⟨dropped, same⟩ := usable.dropStatement conduct unreachable
    obtain ⟨settled, same'⟩ := dropped.settleConnection conduct id.connection
    exact ⟨settled, same.trans same'⟩

theorem releaseConnection (conduct : Conduct library) (id : Nat) :
    (session.releaseConnection conduct id).Usable ∧
      SameTokens session (session.releaseConnection conduct id) := by
  have released : (session.updateConnection id fun connection =>
      { connection with isHeld := false }).Usable :=
    usable.edit rfl ⟨rfl, rfl⟩
      (fun other _ _ isOpen => (session.isClosed_updateConnection id other
        (fun connection => { connection with isHeld := false }) fun _ => rfl).trans isOpen)
      (Nat.le_of_eq (length_updateConnection session _ _).symm)
      (fun other _ _ isLive => by
        rw [isFinalized_eq, state?_releaseConnection, ← isFinalized_eq]
        exact isLive)
      fun other isMade => (state?_releaseConnection session id other).symm ▸ isMade
  obtain ⟨settled, same⟩ := released.settleConnection conduct id
  exact ⟨settled, same.connections, same.statements⟩

theorem releaseStatement (conduct : Conduct library) (id : StatementId) :
    (session.releaseStatement conduct id).Usable ∧
      SameTokens session (session.releaseStatement conduct id) := by
  have released : (session.updateStatement id fun statement =>
      { statement with isHeld := false }).Usable :=
    usable.edit rfl ⟨rfl, rfl⟩
      (fun other _ _ isOpen => (isClosed_updateStatement session id _ other).trans isOpen)
      (Nat.le_of_eq (length_updateConnection session _ _).symm)
      (fun other _ _ isLive => by
        rw [isFinalized_eq, state?_releaseStatement, ← isFinalized_eq]
        exact isLive)
      fun other isMade => (state?_releaseStatement session id other).symm ▸ isMade
  obtain ⟨settled, same⟩ := released.settleStatement conduct id
  exact ⟨settled, same.connections, same.statements⟩

end Usable

end SqliteBridge.Session
