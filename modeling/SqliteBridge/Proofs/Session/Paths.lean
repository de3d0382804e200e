import SqliteBridge.Proofs.Session.Interludes

/-! Every act is a path of turns. -/
namespace SqliteBridge.Session

open Native (Call Course Library)

variable {library : Library} {motion : Motion library} {allowed : Act → Prop}
  {conduct : Conduct library} {session before after : Session library} {id : Nat} {α : Type}

/-! ### Guards -/

theorem lt_length_of_connection? {connection : ConnectionHandle}
    (found : session.connection? id = some connection) : id < session.connections.length :=
  (List.getElem?_eq_some_iff.mp found).1

theorem lt_length_of_isClosed (isOpen : session.isClosed id = false) :
    id < session.connections.length := by
  obtain ⟨connection, found, -⟩ := session.isClosed_eq_false_iff.mp isOpen
  exact lt_length_of_connection? found

theorem lt_length_of_isFinalized {id : StatementId} (isLive : session.isFinalized id = false) :
    id.connection < session.connections.length := by
  obtain ⟨statement, found, -⟩ := session.isFinalized_eq_false_iff.mp isLive
  rw [statement?] at found
  cases known : session.connection? id.connection with
  | none => rw [known] at found; contradiction
  | some connection => exact lt_length_of_connection? known

theorem CanRun.kept {id : StatementId} (guard : before.CanRun id)
    (same : SameHandles id.connection before after) : after.CanRun id :=
  ⟨(same.isFinalized id.index).trans guard.isLive, same.isClosed.trans guard.isOpen⟩

theorem CanRun.canEnter {id : StatementId} (guard : session.CanRun id) {call : Call}
    (named : call.statement? = some id) (isUse : call.isUse = true) : session.CanEnter call := by
  refine ⟨isUse, ?_, ?_, ?_⟩
  · rw [Call.statement?_connection named]
    exact guard.isOpen
  · rw [named]
    rintro _ ⟨⟩
    exact guard.isLive
  · rintro statement sql rfl
    contradiction

/-- Outside the guard an operation of an open connection is refused. -/
theorem whileOpen_path {operation : ConnectionHandle → Except Error α × Session library}
    (runs : ∀ connection, session.connection? id = some connection →
      session.isClosed id = false → Path motion allowed session (operation connection).2) :
    Path motion allowed session (session.whileOpen id operation).2 := by
  unfold whileOpen
  cases found : session.connection? id with
  | none => exact .refl
  | some connection =>
    dsimp only
    split
    · exact .refl
    · rename_i isOpen
      refine runs connection found ?_
      rw [isClosed, found]
      simpa using isOpen

theorem onStatement_path {id : StatementId}
    {operation : StatementHandle → Except Error α × Session library}
    (runs : ∀ statement, session.statement? id = some statement → session.CanRun id →
      Path motion allowed session (operation statement).2) :
    Path motion allowed session (session.onStatement id operation).2 := by
  unfold onStatement
  cases found : session.statement? id with
  | none => exact .refl
  | some statement =>
    dsimp only
    split
    · exact .refl
    · rename_i isLive
      refine whileOpen_path fun _ _ isOpen => runs statement found ⟨?_, isOpen⟩
      exact session.isFinalized_eq_false_iff.mpr ⟨statement, found, isLive⟩

/-- A call that asks nothing leaves a statement able to run. -/
theorem CanRun.native {id : StatementId} (guard : session.CanRun id) (call : Call)
    (silent : call.compiles = false) (conduct : Conduct library) :
    (session.native conduct call).2.CanRun id := by
  obtain ⟨result, world, -, called⟩ :=
    native_of_compiles_eq_false (.any library) call silent conduct session
  rw [called]
  exact ⟨guard.isLive, guard.isOpen⟩

/-! ### Calls -/

/-- What the end of a connection does, be it closed on request or dropped. -/
theorem closeNative_eq (motion : Motion library) (conduct : Conduct library)
    (isOpen : session.isClosed id = false) :
    ∃ unset code between world, motion.moves id session.world world ∧
      (session.markClosed id).closeNative conduct id =
        (code, ((((session.markClosed id).called (.setAuthorizer id none) unset between).called
          (.closeV2 id) code world).setAddress id none).dropCallback (session.address? id)) := by
  obtain ⟨unset, between, first, unregistered⟩ := native_of_compiles_eq_false motion
    (.setAuthorizer id none) rfl conduct (session.markClosed id)
  obtain ⟨code, world, second, closed⟩ := native_of_compiles_eq_false motion
    (.closeV2 id) rfl conduct
      ((session.markClosed id).called (.setAuthorizer id none) unset between)
  obtain ⟨connection, found, -⟩ := session.isClosed_eq_false_iff.mp isOpen
  have marked : (session.markClosed id).connection? id =
      some { connection with isClosed := true } := by
    rw [markClosed, connection?_updateConnection_self, found]
    rfl
  have address : ((session.markClosed id).connection? id).bind ConnectionHandle.authorizer? =
      session.address? id := by
    rw [marked, address?, found]
    rfl
  refine ⟨unset, code, between, world, motion.trans first second, ?_⟩
  rw [← address]
  simp only [closeNative, unregistered, closed]
  rfl

theorem isClosed_closeNative (conduct : Conduct library) (isOpen : session.isClosed id = false) :
    ((session.markClosed id).closeNative conduct id).2.isClosed id = true := by
  obtain ⟨unset, code, between, world, -, shut⟩ := closeNative_eq (.any library) conduct isOpen
  have kept := isClosed_updateConnection
    (((session.markClosed id).called (.setAuthorizer id none) unset between).called (.closeV2 id)
      code world) id id (fun connection => { connection with authorizer? := none }) fun _ => rfl
  rw [shut, isClosed_congr (connections_dropCallback _ _)]
  exact kept.trans (session.isClosed_markClosed id)

namespace Careful

/-- A call that asks nothing and uses what there is. -/
theorem use {call : Call} (careful : Careful motion allowed conduct call.connection)
    (silent : call.compiles = false) (guard : session.CanEnter call) :
    Path motion allowed session (session.native conduct call).2 := by
  obtain ⟨result, world, moved, called⟩ :=
    native_of_compiles_eq_false motion call silent conduct session
  rw [called]
  exact .tail (.single (.enters call careful.touched guard))
    (.leaves call result world careful.touched
      (Call.leavesHandles_of_isUse guard.isUse silent result) moved)

/-- A call about an open connection. -/
theorem useConnection (call : Call) (careful : Careful motion allowed conduct call.connection)
    (silent : call.compiles = false) (isUse : call.isUse = true)
    (unnamed : call.statement? = none) (isOpen : session.isClosed call.connection = false) :
    Path motion allowed session (session.native conduct call).2 := by
  refine careful.use silent ⟨isUse, isOpen, by simp [unnamed], ?_⟩
  rintro statement sql rfl
  contradiction

/-- A call about a statement that can run. -/
theorem useStatement {id : StatementId} (careful : Careful motion allowed conduct id.connection)
    (call : Call) (guard : session.CanRun id) (named : call.statement? = some id)
    (isUse : call.isUse = true) (silent : call.compiles = false) :
    Path motion allowed session (session.native conduct call).2 := by
  rw [← Call.statement?_connection named] at careful
  exact careful.use silent (guard.canEnter named isUse)

theorem lastError_path (careful : Careful motion allowed conduct id) (code : Int32) :
    Path motion allowed session (session.lastError conduct id code).2 := by
  unfold lastError
  cases isClosed : session.isClosed id with
  | true => exact .refl
  | false =>
    exact careful.useConnection (.errorMessage id) rfl rfl rfl isClosed

theorem fail_path (careful : Careful motion allowed conduct id) (sql : String) (code : Int32) :
    Path motion allowed session (session.fail conduct id sql code : Except Error α × _).2 :=
  careful.lastError_path code

theorem check_path (careful : Careful motion allowed conduct id) (sql : String) (code : Int32) :
    Path motion allowed session (session.check conduct id sql code).2 := by
  unfold check
  split
  · exact .refl
  · exact careful.fail_path sql code

/-! ### Statements -/

theorem step_path {id : StatementId} (careful : Careful motion allowed conduct id.connection) :
    Path motion allowed session (session.step conduct id).2 := by
  refine onStatement_path fun statement _ guard => ?_
  obtain ⟨code, world, paused, interlude, same, moved, called⟩ :=
    careful.native_interlude (.step id) (lt_length_of_isClosed guard.isOpen)
  have stepped : Path motion allowed session
      ((paused.returned (.step id) code world).setState id (stateAfterStep code)) :=
    ((Relation.ReflTransGen.single
      (.enters (.step id) careful.touched (guard.canEnter rfl rfl))).trans
        (interlude.path careful.touched)).tail
          (.steps id code world careful.touched (guard.kept same) moved)
  simp only [called]
  split
  · exact stepped.trans (careful.fail_path statement.sql code)
  · exact stepped

theorem reset_path {id : StatementId} (careful : Careful motion allowed conduct id.connection) :
    Path motion allowed session (session.reset conduct id).2 := by
  refine onStatement_path fun statement _ guard => ?_
  obtain ⟨code, world, paused, interlude, same, moved, called⟩ :=
    careful.native_interlude (.reset id) (lt_length_of_isClosed guard.isOpen)
  have reset : Path motion allowed session
      ((paused.returned (.reset id) code world).setState id .prepared) :=
    ((Relation.ReflTransGen.single
      (.enters (.reset id) careful.touched (guard.canEnter rfl rfl))).trans
        (interlude.path careful.touched)).tail
          (.resets id code world careful.touched (guard.kept same) moved)
  simp only [called]
  split
  · exact reset
  · exact reset.trans (careful.check_path statement.sql code)

/-- What the end of a statement does, be it finalized on request or dropped. -/
theorem destroy_interlude {id : StatementId} (careful : Careful motion allowed conduct id.connection)
    (isLive : session.isFinalized id = false) :
    ∃ code world paused,
      Interlude motion allowed id.connection
        ((session.setState id .finalized).record (.enters (.finalize id))) paused ∧
      SameHandles id.connection (session.setState id .finalized) paused ∧
      motion.moves id.connection paused.world world ∧
      (session.setState id .finalized).native conduct (.finalize id) =
        (code, paused.returned (.finalize id) code world) := by
  have isOld : id.connection < (session.setState id .finalized).connections.length := by
    simpa [setState, updateStatement] using lt_length_of_isFinalized isLive
  exact careful.native_interlude (.finalize id) isOld

theorem isFinalized_destroy {id : StatementId}
    (careful : Careful motion allowed conduct id.connection)
    (isLive : session.isFinalized id = false) :
    ((session.setState id .finalized).native conduct (.finalize id)).2.isFinalized id = true := by
  obtain ⟨code, world, paused, -, same, -, called⟩ := careful.destroy_interlude isLive
  rw [called]
  exact (same.isFinalized id.index).trans (session.isFinalized_setState id)

/-- The path of a statement that is destroyed. -/
theorem destroy_path {id : StatementId} (careful : Careful motion allowed conduct id.connection)
    (ends : ∃ act, allowed act ∧ act.Ends id) (isLive : session.isFinalized id = false) :
    Path motion allowed session
      ((session.setState id .finalized).native conduct (.finalize id)).2 := by
  obtain ⟨code, world, paused, interlude, -, moved, called⟩ := careful.destroy_interlude isLive
  rw [called]
  exact ((Relation.ReflTransGen.single (.destroys id ends isLive)).trans
    (interlude.path careful.touched)).tail
      (.leaves (.finalize id) code world careful.touched trivial moved)

theorem finalize_path {id : StatementId} (careful : Careful motion allowed conduct id.connection)
    (ends : ∃ act, allowed act ∧ act.Ends id) :
    Path motion allowed session (session.finalize conduct id).2 := by
  unfold finalize
  cases found : session.statement? id with
  | none => exact .refl
  | some statement =>
    dsimp only
    split
    · exact .refl
    · rename_i isLive
      have isLive := session.isFinalized_eq_false_iff.mpr ⟨statement, found, isLive⟩
      have disposed := (careful.destroy_path ends isLive).tail
        (.disposesStatement id careful.touched (careful.isFinalized_destroy isLive))
      split
      · exact disposed
      · exact disposed.trans (careful.check_path statement.sql _)

theorem prepare_path (careful : Careful motion allowed conduct id) (sql : String) :
    Path motion allowed session (session.prepare conduct id sql).2 := by
  refine whileOpen_path fun connection found isOpen => ?_
  split
  · exact .refl
  split
  · exact .refl
  have next : session.statement? ⟨id, connection.statements.length⟩ = none := by
    simp [statement?, found]
  obtain ⟨preparation, world, paused, interlude, same, moved, called⟩ :=
    careful.native_interlude (.prepareV2 ⟨id, connection.statements.length⟩ sql)
      (lt_length_of_isClosed isOpen)
  have entered : Path motion allowed session paused := by
    refine (Relation.ReflTransGen.single (.enters _ careful.touched ⟨rfl, isOpen, ?_, ?_⟩)).trans
      (interlude.path careful.touched)
    · simp [Call.statement?]
    · rintro _ _ ⟨⟩
      exact next
  simp only [called]
  split
  · rename_i failure
    exact (entered.tail (.leaves _ preparation world careful.touched (fun h => failure h.1)
      moved)).trans (careful.fail_path sql _)
  · rename_i success
    split
    · rename_i isStatement
      have open' : connection.isClosed = false := by
        simpa [isClosed, found] using isOpen
      exact entered.tail (.prepares ⟨id, connection.statements.length⟩ sql preparation world
        careful.touched (same.connection.trans found) open' rfl
        ⟨Decidable.of_not_not success, isStatement⟩ moved)
    · rename_i isNothing
      exact entered.tail (.leaves _ preparation world careful.touched (fun h => isNothing h.2)
        moved)

theorem bindInput_path {id : StatementId} (careful : Careful motion allowed conduct id.connection)
    (guard : session.CanRun id) (number : Int32) (input : Input) :
    Path motion allowed session (session.bindInput conduct id number input).2 := by
  have text (s : String) : Path motion allowed session (session.bindText conduct id number s).2 := by
    unfold bindText
    split
    · exact .refl
    · exact careful.useStatement _ guard rfl rfl rfl
  have blob (bytes : ByteArray) :
      Path motion allowed session (session.bindBlob conduct id number bytes).2 := by
    unfold bindBlob
    split
    · exact .refl
    · exact careful.useStatement _ guard rfl rfl rfl
  have value (v : Value) :
      Path motion allowed session (session.bindValue conduct id number v).2 := by
    cases v with
    | null | int | long | double =>
      exact careful.useStatement _ guard rfl rfl rfl
    | text s => exact text s
    | blob bytes => exact blob bytes
  cases input with
  | null | int | long | double =>
    exact careful.useStatement _ guard rfl rfl rfl
  | text s => exact text s
  | blob bytes => exact blob bytes
  | value v => exact value v

theorem bind_path {id : StatementId} (careful : Careful motion allowed conduct id.connection)
    (number : Int32) (input : Input) :
    Path motion allowed session (session.bind conduct id number input).2 :=
  onStatement_path fun statement _ guard =>
    (careful.bindInput_path guard number input).trans (careful.check_path statement.sql _)

theorem clearBindings_path {id : StatementId}
    (careful : Careful motion allowed conduct id.connection) :
    Path motion allowed session (session.clearBindings conduct id).2 :=
  onStatement_path fun statement _ guard =>
    (careful.useStatement (.clearBindings id) guard rfl rfl rfl).trans
      (careful.check_path statement.sql _)

theorem parameterCount_path {id : StatementId}
    (careful : Careful motion allowed conduct id.connection) :
    Path motion allowed session (session.parameterCount conduct id).2 :=
  onStatement_path fun _ _ guard => careful.useStatement _ guard rfl rfl rfl

theorem columnCount_path {id : StatementId}
    (careful : Careful motion allowed conduct id.connection) :
    Path motion allowed session (session.columnCount conduct id).2 :=
  onStatement_path fun _ _ guard => careful.useStatement _ guard rfl rfl rfl

theorem columnName_path {id : StatementId}
    (careful : Careful motion allowed conduct id.connection) (column : Int32) :
    Path motion allowed session (session.columnName conduct id column).2 :=
  onStatement_path fun _ _ guard => careful.useStatement _ guard rfl rfl rfl

theorem readText_path {id : StatementId} (careful : Careful motion allowed conduct id.connection)
    (guard : session.CanRun id) (column : Int32) :
    Path motion allowed session (session.readText conduct id column).2 := by
  have read : Path motion allowed session (session.native conduct (.columnText id column)).2 :=
    careful.useStatement _ guard rfl rfl rfl
  have guard := guard.native (.columnText id column) rfl conduct
  unfold readText
  dsimp only
  split
  · exact read
  · exact read.trans (careful.useStatement _ guard rfl rfl rfl)

theorem readBlob_path {id : StatementId} (careful : Careful motion allowed conduct id.connection)
    (guard : session.CanRun id) (column : Int32) :
    Path motion allowed session (session.readBlob conduct id column).2 := by
  have read : Path motion allowed session (session.native conduct (.columnBlob id column)).2 :=
    careful.useStatement _ guard rfl rfl rfl
  have guard := guard.native (.columnBlob id column) rfl conduct
  have sized := careful.useStatement (.columnBytes id column) guard rfl rfl rfl
  unfold readBlob
  dsimp only
  split
  · exact read.trans sized
  · split
    · exact read.trans sized
    · exact read.trans sized

theorem readValue_path {id : StatementId} (careful : Careful motion allowed conduct id.connection)
    (guard : session.CanRun id) (column : Int32) :
    Path motion allowed session (session.readValue conduct id column).2 := by
  have typed : Path motion allowed session (session.native conduct (.columnType id column)).2 :=
    careful.useStatement _ guard rfl rfl rfl
  have guard := guard.native (.columnType id column) rfl conduct
  unfold readValue
  dsimp only
  split
  · exact typed.trans (careful.useStatement (.columnInt64 id column) guard rfl rfl rfl)
  · exact typed.trans (careful.useStatement (.columnDouble id column) guard rfl rfl rfl)
  · exact typed.trans (careful.readText_path guard column)
  · exact typed.trans (careful.readBlob_path guard column)
  · exact typed

theorem column_path {id : StatementId} (careful : Careful motion allowed conduct id.connection)
    (reading : Reading) (column : Int32) :
    Path motion allowed session (session.column conduct id reading column).2 := by
  refine onStatement_path fun _ _ guard => ?_
  cases reading with
  | columnType | isNull | int | long | double =>
    exact careful.useStatement _ guard rfl rfl rfl
  | text => exact careful.readText_path guard column
  | blob => exact careful.readBlob_path guard column
  | value => exact careful.readValue_path guard column

/-! ### Connections -/

theorem errorMessage_path (careful : Careful motion allowed conduct id) :
    Path motion allowed session (session.errorMessage conduct id).2 :=
  whileOpen_path fun _ _ isOpen =>
    careful.useConnection (.errorMessage id) rfl rfl rfl isOpen

theorem errorCode_path (careful : Careful motion allowed conduct id) :
    Path motion allowed session (session.errorCode conduct id).2 :=
  whileOpen_path fun _ _ isOpen =>
    careful.useConnection (.errorCode id) rfl rfl rfl isOpen

theorem changes_path (careful : Careful motion allowed conduct id) :
    Path motion allowed session (session.changes conduct id).2 :=
  whileOpen_path fun _ _ isOpen =>
    careful.useConnection (.changes id) rfl rfl rfl isOpen

theorem lastInsertedId_path (careful : Careful motion allowed conduct id) :
    Path motion allowed session (session.lastInsertedId conduct id).2 :=
  whileOpen_path fun _ _ isOpen =>
    careful.useConnection (.lastInsertRowId id) rfl rfl rfl isOpen

theorem exec_path (careful : Careful motion allowed conduct id) (sql : String) :
    Path motion allowed session (session.exec conduct id sql).2 := by
  refine whileOpen_path fun _ _ isOpen => ?_
  split
  · exact .refl
  obtain ⟨execution, world, paused, interlude, same, moved, called⟩ :=
    careful.native_interlude (.exec id sql) (lt_length_of_isClosed isOpen)
  have guard : session.CanEnter (.exec id sql) := by
    refine ⟨rfl, isOpen, ?_, ?_⟩
    · simp [Call.statement?]
    · rintro _ _ ⟨⟩
  have executed : Path motion allowed session (paused.returned (.exec id sql) execution world) :=
    ((Relation.ReflTransGen.single (.enters _ careful.touched guard)).trans
      (interlude.path careful.touched)).tail
        (.leaves _ execution world careful.touched trivial moved)
  have stillOpen : (paused.returned (.exec id sql) execution world).isClosed id = false :=
    same.isClosed.trans isOpen
  simp only [called]
  split
  · exact executed
  split
  · exact executed.trans (careful.fail_path sql _)
  · rename_i bytes _
    exact executed.trans
      (careful.useConnection (.free id bytes) rfl rfl rfl stillOpen)

/-- The path of a connection that is closed, be it on request or because it is dropped. -/
theorem closeNative_path (careful : Careful motion allowed conduct id)
    (isOpen : session.isClosed id = false) :
    Path motion allowed session ((session.markClosed id).closeNative conduct id).2 := by
  obtain ⟨unset, code, between, world, moved, shut⟩ := closeNative_eq motion conduct isOpen
  rw [shut]
  exact .single (.closes id unset code between world careful.touched isOpen moved)

theorem close_path (careful : Careful motion allowed conduct id) :
    Path motion allowed session (session.close conduct id).2 := by
  unfold close
  split
  · exact .refl
  · rename_i isOpen
    have isOpen := eq_false_of_ne_true isOpen
    have disposed := (careful.closeNative_path isOpen).tail
      (.disposesConnection id careful.touched (isClosed_closeNative conduct isOpen))
    dsimp only
    split
    · exact disposed
    · exact disposed

theorem setAuthorizer_path (careful : Careful motion allowed conduct id)
    {callback? : Option Callback} (sets : allowed (.perform (.setAuthorizer id callback?))) :
    Path motion allowed session (session.setAuthorizer conduct id callback?).2 := by
  refine whileOpen_path fun connection found isOpen => ?_
  obtain ⟨code, world, moved, called⟩ := native_of_compiles_eq_false motion
    (.setAuthorizer id (session.box callback?).1) rfl conduct (session.box callback?).2
  have isOpen' : ((session.box callback?).2.called
      (.setAuthorizer id (session.box callback?).1) code world).isClosed id = false :=
    (isClosed_congr (connections_box session callback?) id).trans isOpen
  have address : connection.authorizer? = session.address? id := by
    rw [address?, found]
    rfl
  rw [world_box] at moved
  simp only [called]
  split
  · rename_i success
    subst success
    rw [address]
    exact .single (.authorizes id callback? world sets isOpen moved)
  · rename_i failure
    obtain ⟨bytes?, later, told, asked⟩ := native_of_compiles_eq_false motion
      (.errorMessage id) rfl conduct ((session.box callback?).2.called
        (.setAuthorizer id (session.box callback?).1) code world)
    simp only [lastError, isOpen', asked]
    exact .single (.declines id callback? code bytes? world later careful.touched isOpen failure
      (motion.trans moved told))

end Careful

/-! ### Opening -/

theorem openWith_path (opened : Opened allowed) (conduct : Conduct library) (config : OpenConfig) :
    Path motion allowed session (session.openWith conduct config).2 := by
  unfold openWith
  split
  · exact .refl
  obtain ⟨opening, world, moved, called⟩ := native_of_compiles_eq_false motion
    (.openV2 session.connections.length config.path config.flags.code) rfl conduct session
  simp only [called]
  split
  · rename_i success
    split
    · obtain ⟨code, later, waited, set⟩ := native_of_compiles_eq_false motion
        (.busyTimeout session.connections.length config.busyMilliseconds) rfl conduct
          (session.called (.openV2 session.connections.length config.path config.flags.code)
            opening world)
      rw [set]
      exact .single (.opens config.path config.flags.code opening opened
        (.waiting opening world success config.busyMilliseconds code later) success
        (motion.trans moved waited))
    · exact .single (.opens config.path config.flags.code opening opened
        (.plain opening world (.inl success)) success moved)
  · rename_i failure
    split
    · rename_i isHalfOpen
      obtain ⟨bytes?, told, asked, message⟩ := native_of_compiles_eq_false motion
        (.errorMessage session.connections.length) rfl conduct
          (session.called (.openV2 session.connections.length config.path config.flags.code)
            opening world)
      rw [message]
      obtain ⟨code, later, left, closed⟩ := native_of_compiles_eq_false motion
        (.close session.connections.length) rfl conduct
          ((session.called (.openV2 session.connections.length config.path config.flags.code)
            opening world).called (.errorMessage session.connections.length) bytes? told)
      rw [closed]
      exact .single (.fails config.path config.flags.code opening opened
        (.halfOpen opening world failure isHalfOpen bytes? told code later) failure
        (motion.trans (motion.trans moved asked) left))
    · rename_i isShut
      exact .single (.fails config.path config.flags.code opening opened
        (.plain opening world (.inr (eq_false_of_ne_true isShut))) failure moved)

namespace Careful

/-! ### Dropping -/

theorem settleConnection_path (careful : Careful motion allowed conduct id) :
    Path motion allowed session (session.settleConnection conduct id) := by
  unfold settleConnection
  split
  · exact .refl
  · rename_i dropped
    rw [Bool.or_eq_true, not_or] at dropped
    exact careful.closeNative_path (eq_false_of_ne_true dropped.2)

theorem dropStatement_path {id : StatementId} (careful : Careful motion allowed conduct id.connection)
    (ends : ∃ act, allowed act ∧ act.Ends id) :
    Path motion allowed session (session.dropStatement conduct id) := by
  unfold dropStatement
  split
  · exact .refl
  · rename_i isLive
    exact careful.destroy_path ends (eq_false_of_ne_true isLive)

theorem settleStatement_path {id : StatementId}
    (careful : Careful motion allowed conduct id.connection)
    (ends : ∃ act, allowed act ∧ act.Ends id) :
    Path motion allowed session (session.settleStatement conduct id) := by
  unfold settleStatement
  split
  · exact .refl
  · exact (careful.dropStatement_path ends).trans careful.settleConnection_path

theorem releaseConnection_path (careful : Careful motion allowed conduct id) :
    Path motion allowed session (session.releaseConnection conduct id) :=
  (Relation.ReflTransGen.single (.releasesConnection id careful.touched)).trans
    careful.settleConnection_path

theorem releaseStatement_path {id : StatementId}
    (careful : Careful motion allowed conduct id.connection)
    (ends : ∃ act, allowed act ∧ act.Ends id) :
    Path motion allowed session (session.releaseStatement conduct id) :=
  (Relation.ReflTransGen.single (.releasesStatement id careful.touched)).trans
    (careful.settleStatement_path ends)

end Careful

/-! ### Acts and runs -/

/-- An act is a path if the callbacks are careful about its connection. -/
theorem act_path (act : Act) (isAllowed : allowed act)
    (careful : ∀ id, act.connection? = some id → Careful motion allowed conduct id) :
    Path motion allowed session (act.run conduct session) := by
  cases act with
  | connectionToken id => exact .single (.connectionToken id isAllowed)
  | statementToken id => exact .single (.statementToken id isAllowed)
  | releaseConnection id => exact (careful id rfl).releaseConnection_path
  | releaseStatement id =>
    exact (careful id.connection rfl).releaseStatement_path ⟨_, isAllowed, .inr (.inl rfl)⟩
  | settleConnection id => exact (careful id rfl).settleConnection_path
  | settleStatement id =>
    exact (careful id.connection rfl).settleStatement_path ⟨_, isAllowed, .inr (.inr rfl)⟩
  | perform request =>
    cases request with
    | openWith config => exact openWith_path ⟨config, isAllowed⟩ conduct config
    | close id => exact (careful id rfl).close_path
    | prepare id sql => exact (careful id rfl).prepare_path sql
    | errorMessage id => exact (careful id rfl).errorMessage_path
    | errorCode id => exact (careful id rfl).errorCode_path
    | exec id sql => exact (careful id rfl).exec_path sql
    | changes id => exact (careful id rfl).changes_path
    | lastInsertedId id => exact (careful id rfl).lastInsertedId_path
    | setAuthorizer id callback? => exact (careful id rfl).setAuthorizer_path isAllowed
    | step id => exact (careful id.connection rfl).step_path
    | reset id => exact (careful id.connection rfl).reset_path
    | finalize id =>
      exact (careful id.connection rfl).finalize_path ⟨_, isAllowed, .inl rfl⟩
    | clearBindings id => exact (careful id.connection rfl).clearBindings_path
    | parameterCount id => exact (careful id.connection rfl).parameterCount_path
    | bind id number input => exact (careful id.connection rfl).bind_path number input
    | columnCount id => exact (careful id.connection rfl).columnCount_path
    | columnName id column => exact (careful id.connection rfl).columnName_path column
    | column id reading column => exact (careful id.connection rfl).column_path reading column
    | describe | version => exact .refl

/-- A run is a path. -/
theorem Evolves.path (motion : Motion library) (evolves : Evolves allowed before after) :
    Path motion allowed before after := by
  induction evolves with
  | rest => exact .refl
  | act earlier act isAllowed conduct keeps earlierPath keepsPath =>
    refine earlierPath.trans (act_path act isAllowed fun id about => ⟨⟨act, isAllowed, about⟩, ?_⟩)
    intro callback request during
    exact (keepsPath callback request during).mono fun other spares =>
      ⟨spares.1, spares.2 id about⟩

theorem Keeps.careful (motion : Motion library) (keeps : Keeps conduct allowed id)
    (touched : Touched allowed id) : Careful motion allowed conduct id :=
  ⟨touched, fun callback request during => (keeps callback request during).path motion⟩

end SqliteBridge.Session
