import SqliteBridge.Proofs.Session.Quiet
import SqliteBridge.Proofs.Session.Release

/-! Sessions without callbacks. Where none was registered the library asks nobody, so a call leaves
everything but the library and the record as it is, whatever callbacks would do. What an operation
does to the handles and to their tokens can then be told exactly. -/
namespace SqliteBridge.Session

open Handle.Population (Guards)
open Native (Call Course Library)

variable {library : Library} {session before after : Session library} {id : Nat} {α : Type}

theorem quiet_follow (call : Call) (conduct : Conduct library)
    {course : Course library.World call.Result} (unattended : session.callbacks = []) :
    Quiet session (follow conduct call course session).2 := by
  induction course generalizing session with
  | returns result world => exact ⟨rfl, rfl, rfl, rfl⟩
  | asks address question world resume ih =>
    have absent : ({ session with world } : Session library).callback? address = none := by
      simp [callback?, unattended]
    have asked : Quiet session (({ session with world } : Session library).record
        (.asks call.connection address none (readQuestion question))) := ⟨rfl, rfl, rfl, rfl⟩
    simp only [follow, consult, absent]
    exact asked.trans (ih _ _ unattended)

theorem quiet_native (call : Call) (conduct : Conduct library)
    (unattended : session.callbacks = []) : Quiet session (session.native conduct call).2 := by
  have entered : Quiet session (session.record (.enters call)) := ⟨rfl, rfl, rfl, rfl⟩
  exact entered.trans (quiet_follow call conduct unattended)

theorem Quiet.updateConnection (quiet : Quiet before after) (id : Nat)
    (edit : ConnectionHandle → ConnectionHandle) :
    Quiet (before.updateConnection id edit) (after.updateConnection id edit) :=
  ⟨congrArg (List.modify · id edit) quiet.connections, quiet.callbacks, quiet.connectionTokens,
    quiet.statementTokens⟩

theorem quiet_fail (conduct : Conduct library) (session : Session library) (id : Nat) (sql : String)
    (code : Int32) : Quiet session (session.fail conduct id sql code : Except Error α × _).2 :=
  quiet_lastError conduct session id code

theorem dropCallback_of_unattended (unattended : session.callbacks = []) (address? : Option Nat) :
    session.dropCallback address? = session := by
  cases address? with
  | none => rfl
  | some address =>
    rw [dropCallback, unattended, List.set_nil, ← unattended]

/-! ### Operations -/

section Operations

variable (unattended : session.callbacks = []) (conduct : Conduct library)

include unattended

theorem quiet_exec (id : Nat) (sql : String) : Quiet session (session.exec conduct id sql).2 := by
  refine quiet_whileOpen fun _ => ?_
  split
  · exact .refl
  · have ran := quiet_native (.exec id sql) conduct unattended
    dsimp only
    split
    · exact ran
    · split
      · exact ran.trans (quiet_fail conduct _ id sql _)
      · exact ran.trans (.native (.free id _) rfl conduct _)

theorem step_unattended {id : StatementId} (guard : session.CanRun id) :
    ∃ code, Quiet (session.setState id (stateAfterStep code)) (session.step conduct id).2 := by
  obtain ⟨statement, -, -, passed⟩ := onStatement_of_canRun guard
  have ran := (quiet_native (.step id) conduct unattended).updateConnection id.connection
  refine ⟨(session.native conduct (.step id)).1, ?_⟩
  rw [step, passed]
  dsimp only
  split
  · exact (ran _).trans (quiet_fail conduct _ id.connection statement.sql _)
  · exact ran _

theorem reset_unattended {id : StatementId} (guard : session.CanRun id) :
    Quiet (session.setState id .prepared) (session.reset conduct id).2 := by
  obtain ⟨statement, -, -, passed⟩ := onStatement_of_canRun guard
  have ran := (quiet_native (.reset id) conduct unattended).updateConnection id.connection
  rw [reset, passed]
  dsimp only
  split
  · exact ran _
  · exact (ran _).trans (quiet_check conduct _ id.connection statement.sql _)

theorem prepare_unattended (id : Nat) (sql : String) :
    (∃ error, (session.prepare conduct id sql).1 = .error error ∧
      Quiet session (session.prepare conduct id sql).2) ∨
    ∃ connection, session.connection? id = some connection ∧ connection.isClosed = false ∧
      (session.prepare conduct id sql).1 = .ok ⟨id, connection.statements.length⟩ ∧
      Quiet (session.addStatement ⟨id, connection.statements.length⟩ sql)
        (session.prepare conduct id sql).2 := by
  cases isClosed : session.isClosed id with
  | true =>
    rw [prepare, whileOpen_of_isClosed isClosed]
    exact .inl ⟨_, rfl, .refl⟩
  | false =>
    obtain ⟨connection, found, isOpen, passed⟩ := whileOpen_of_isOpen isClosed
    have ran := quiet_native (.prepareV2 ⟨id, connection.statements.length⟩ sql) conduct unattended
    rw [prepare, passed]
    split
    · exact .inl ⟨_, rfl, .refl⟩
    split
    · exact .inl ⟨_, rfl, .refl⟩
    dsimp only
    split
    · exact .inl ⟨_, rfl, ran.trans (quiet_fail conduct _ id sql _)⟩
    split
    · exact .inr ⟨connection, found, isOpen, rfl, ran.updateConnection id _⟩
    · exact .inl ⟨_, rfl, ran⟩

theorem closeNative_unattended (isOpen : session.isClosed id = false) :
    (∃ log, ((session.markClosed id).closeNative conduct id).2.log =
      .leaves (.closeV2 id) ((session.markClosed id).closeNative conduct id).1 :: log) ∧
    Quiet ((session.markClosed id).setAddress id none)
      ((session.markClosed id).closeNative conduct id).2 := by
  obtain ⟨unset, code, between, world, -, shut⟩ := closeNative_eq (.any library) conduct isOpen
  have called : Quiet (session.markClosed id) (((session.markClosed id).called
      (.setAuthorizer id none) unset between).called (.closeV2 id) code world) :=
    ⟨rfl, rfl, rfl, rfl⟩
  rw [shut, dropCallback_of_unattended (by exact unattended)]
  exact ⟨⟨_, rfl⟩, called.updateConnection id _⟩

/-- The code with which the library closes a connection is what the operation ends with. -/
theorem close_unattended (isOpen : session.isClosed id = false) :
    (∃ code log,
      (session.close conduct id).1 = (if code = 0 then .ok () else
        .error (.status ⟨⟨code⟩, (errorString library code).getD "close failed", none⟩)) ∧
      (session.close conduct id).2.log = .leaves (.closeV2 id) code :: log) ∧
    Quiet { (session.markClosed id).setAddress id none with
      connectionTokens := session.connectionTokens.disposeToken id }
        (session.close conduct id).2 := by
  obtain ⟨⟨log, recorded⟩, shut⟩ := closeNative_unattended unattended conduct isOpen
  have disposed : Quiet { (session.markClosed id).setAddress id none with
      connectionTokens := session.connectionTokens.disposeToken id }
      { ((session.markClosed id).closeNative conduct id).2 with
        connectionTokens := ((session.markClosed id).closeNative conduct
          id).2.connectionTokens.disposeToken id } :=
    ⟨shut.connections, shut.callbacks, congrArg (·.disposeToken id) shut.connectionTokens,
      shut.statementTokens⟩
  rw [close, if_neg (by rw [isOpen]; exact Bool.false_ne_true)]
  dsimp only
  by_cases success : ((session.markClosed id).closeNative conduct id).1 = 0
  · rw [if_pos success]
    exact ⟨⟨_, log, (if_pos success).symm, recorded⟩, disposed⟩
  · rw [if_neg success]
    exact ⟨⟨_, log, (if_neg success).symm, recorded⟩, disposed⟩

theorem isClosed_close (id : Nat) : (session.close conduct id).2.isClosed id = true := by
  cases isClosed : session.isClosed id with
  | true =>
    rw [close, if_pos isClosed]
    exact isClosed
  | false =>
    rw [(close_unattended unattended conduct isClosed).2.isClosed]
    exact (isClosed_setAddress (session.markClosed id) id none id).trans
      (isClosed_markClosed session id)

theorem finalize_unattended {id : StatementId} (isLive : session.isFinalized id = false) :
    Quiet { session.setState id .finalized with
      statementTokens := session.statementTokens.disposeToken id } (session.finalize conduct id).2 := by
  obtain ⟨statement, found, live⟩ := session.isFinalized_eq_false_iff.mp isLive
  have ran : Quiet (session.setState id .finalized)
      ((session.setState id .finalized).native conduct (.finalize id)).2 :=
    quiet_native (.finalize id) conduct unattended
  have disposed : Quiet { session.setState id .finalized with
      statementTokens := session.statementTokens.disposeToken id }
      { ((session.setState id .finalized).native conduct (.finalize id)).2 with
        statementTokens := ((session.setState id .finalized).native conduct
          (.finalize id)).2.statementTokens.disposeToken id } :=
    ⟨ran.connections, ran.callbacks, ran.connectionTokens,
      congrArg (·.disposeToken id) ran.statementTokens⟩
  unfold finalize
  simp only [found, if_neg live]
  split
  · exact disposed
  · exact disposed.trans (quiet_check conduct _ id.connection statement.sql _)

end Operations

theorem openWith_quiet (conduct : Conduct library) (session : Session library)
    (config : OpenConfig) :
    (∃ error, (session.openWith conduct config).1 = .error error ∧
      Quiet session (session.openWith conduct config).2) ∨
    (session.openWith conduct config).1 = .ok session.connections.length ∧
      Quiet (session.addConnection config.path) (session.openWith conduct config).2 := by
  have opened := Quiet.native (.openV2 session.connections.length config.path config.flags.code) rfl
    conduct session
  unfold openWith
  split
  · exact .inl ⟨_, rfl, .refl⟩
  dsimp only
  split
  · refine .inr ⟨rfl, ?_⟩
    split
    · have waited := opened.trans (.native (.busyTimeout session.connections.length
        config.busyMilliseconds) rfl conduct _)
      exact ⟨congrArg (· ++ _) waited.connections, waited.callbacks, waited.connectionTokens,
        waited.statementTokens⟩
    · exact ⟨congrArg (· ++ _) opened.connections, opened.callbacks, opened.connectionTokens,
        opened.statementTokens⟩
  · refine .inl ⟨_, rfl, ?_⟩
    split
    · exact (opened.trans (.native (.errorMessage _) rfl conduct _)).trans
        (.native (.close _) rfl conduct _)
    · exact opened

end SqliteBridge.Session
