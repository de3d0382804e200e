import SqliteBridge.Proofs.Session.Twins

/-! Requests of twins. Whatever is asked of two connections that cannot be told apart, both give the
same reply and are twins after it. -/
namespace SqliteBridge

open Native (Call Course Library Question)

theorem Native.Call.compiles_anonymous (call : Call) : call.anonymous.compiles = call.compiles := by
  cases call <;> rfl

namespace Session

variable {library : Library} {separation : Separation library}
  {answer : Callback → List (Option Callback × AuthorizationRequest) → Answer}
  {first second : Session library} {id id' : Nat} {α β : Type}

theorem InStep.of_heq {one other : α × Session library}
    (told : HEq one.1 other.1 ∧ Twins separation id id' one.2 other.2) :
    InStep separation id id' one other := ⟨eq_of_heq told.1, told.2⟩

namespace Twins

variable (twins : Twins separation id id' first second) (conduct : Conduct library)

include twins

/-- The same call about both, which asks nothing. -/
theorem tell (one other : Call) (same : one.anonymous = other.anonymous)
    (about : one.connection = id) (about' : other.connection = id') (silent : one.compiles = false) :
    HEq (first.native conduct one).1 (second.native conduct other).1 ∧
      Twins separation id id' (first.native conduct one).2 (second.native conduct other).2 := by
  obtain ⟨told, resemble⟩ := twins.toResemble.call one other same about about' silent conduct
  have silent' : other.compiles = false := by
    rw [← Call.compiles_anonymous, ← same, Call.compiles_anonymous, silent]
  refine ⟨told, resemble, ?_⟩
  rw [(Quiet.native one silent conduct first).authorizer?,
    (Quiet.native other silent' conduct second).authorizer?]
  exact twins.authorizer

theorem update (edit : ConnectionHandle → ConnectionHandle)
    (commutes : ∀ connection, (edit connection).anonymous = edit connection.anonymous)
    (keeps : ∀ connection, (edit connection).authorizer? = connection.authorizer?) :
    Twins separation id id' (first.updateConnection id edit)
      (second.updateConnection id' edit) := by
  refine ⟨twins.toResemble.update edit commutes, ?_⟩
  rw [authorizer?, authorizer?, address?_updateConnection id edit keeps,
    address?_updateConnection id' edit keeps]
  exact twins.authorizer

theorem setState (index : Nat) (state : StatementState) :
    Twins separation id id' (first.setState ⟨id, index⟩ state)
      (second.setState ⟨id', index⟩ state) :=
  twins.update _ (fun _ => rfl) fun _ => rfl

theorem disposeConnection :
    Twins separation id id'
      { first with connectionTokens := first.connectionTokens.disposeToken id }
      { second with connectionTokens := second.connectionTokens.disposeToken id' } where
  toResemble := {
    twins.toResemble with
    token := by
      rw [Handle.Population.reference_disposeToken, Handle.Population.reference_disposeToken,
        if_pos rfl, if_pos rfl] }
  authorizer := twins.authorizer

theorem disposeStatement (index : Nat) :
    Twins separation id id'
      { first with statementTokens := first.statementTokens.disposeToken ⟨id, index⟩ }
      { second with statementTokens := second.statementTokens.disposeToken ⟨id', index⟩ } where
  toResemble := {
    twins.toResemble with
    statementToken := fun other => by
      rw [Handle.Population.reference_disposeToken, Handle.Population.reference_disposeToken]
      simp only [StatementId.mk.injEq, true_and]
      split
      · rfl
      · exact twins.statementToken other }
  authorizer := twins.authorizer

/-! ### Guards and errors -/

theorem whileOpen_cases :
    ((∀ {α : Type} (operation : ConnectionHandle → Except Error α × Session library),
        first.whileOpen id operation = first.misuse "connection is closed") ∧
      ∀ {α : Type} (operation : ConnectionHandle → Except Error α × Session library),
        second.whileOpen id' operation = second.misuse "connection is closed") ∨
    ∃ connection address?, first.connection? id = some connection ∧ connection.isClosed = false ∧
      (∀ {α : Type} (operation : ConnectionHandle → Except Error α × Session library),
        first.whileOpen id operation = operation connection) ∧
      ∀ {α : Type} (operation : ConnectionHandle → Except Error α × Session library),
        second.whileOpen id' operation = operation { connection with authorizer? := address? } := by
  cases isClosed : first.isClosed id with
  | true =>
    exact .inl ⟨whileOpen_of_isClosed isClosed,
      whileOpen_of_isClosed (twins.toResemble.isClosed.symm.trans isClosed)⟩
  | false =>
    obtain ⟨connection, found, isOpen, passed⟩ := whileOpen_of_isOpen isClosed
    obtain ⟨connection', found', -, passed'⟩ :=
      whileOpen_of_isOpen (twins.toResemble.isClosed.symm.trans isClosed)
    obtain ⟨absent, -⟩ | ⟨handle, address?, present, present'⟩ := twins.toResemble.connection_cases
    · rw [found] at absent
      cases absent
    · cases found.symm.trans present
      cases found'.symm.trans present'
      exact .inr ⟨connection, address?, found, isOpen, passed, passed'⟩

/-- An operation that makes no use of the handle. -/
theorem whileOpen {operation operation' : ConnectionHandle → Except Error α × Session library}
    (runs : ∀ connection connection',
      first.whileOpen id operation = operation connection →
      second.whileOpen id' operation' = operation' connection' →
      InStep separation id id' (operation connection) (operation' connection')) :
    InStep separation id id' (first.whileOpen id operation) (second.whileOpen id' operation') := by
  obtain ⟨refused, refused'⟩ | ⟨connection, address?, -, -, passed, passed'⟩ := twins.whileOpen_cases
  · rw [refused, refused']
    exact ⟨rfl, twins⟩
  · rw [passed operation, passed' operation']
    exact runs connection _ (passed operation) (passed' operation')

theorem canRun_iff (index : Nat) : first.CanRun ⟨id, index⟩ ↔ second.CanRun ⟨id', index⟩ :=
  ⟨fun guard => ⟨(twins.toResemble.isFinalized index).symm.trans guard.isLive,
      twins.toResemble.isClosed.symm.trans guard.isOpen⟩,
    fun guard => ⟨(twins.toResemble.isFinalized index).trans guard.isLive,
      twins.toResemble.isClosed.trans guard.isOpen⟩⟩

theorem onStatement (index : Nat)
    {operation operation' : StatementHandle → Except Error α × Session library}
    (runs : ∀ statement, first.CanRun ⟨id, index⟩ → second.CanRun ⟨id', index⟩ →
      InStep separation id id' (operation statement) (operation' statement)) :
    InStep separation id id' (first.onStatement ⟨id, index⟩ operation)
      (second.onStatement ⟨id', index⟩ operation') := by
  by_cases guard : first.CanRun ⟨id, index⟩
  · have guard' := (twins.canRun_iff index).mp guard
    obtain ⟨statement, found, -, passed⟩ := onStatement_of_canRun guard
    obtain ⟨statement', found', -, passed'⟩ := onStatement_of_canRun guard'
    cases found.symm.trans ((twins.toResemble.statement? index).trans found')
    rw [passed operation, passed' operation']
    exact runs statement guard guard'
  · cases isFinalized : first.isFinalized ⟨id, index⟩ with
    | true =>
      rw [onStatement_of_isFinalized isFinalized, onStatement_of_isFinalized
        ((twins.toResemble.isFinalized index).symm.trans isFinalized)]
      exact ⟨rfl, twins⟩
    | false =>
      have isClosed : first.isClosed id = true :=
        eq_true_of_ne_false fun isOpen => guard ⟨isFinalized, isOpen⟩
      unfold Session.onStatement
      rw [twins.toResemble.statement? index]
      split
      · exact ⟨rfl, twins⟩
      · split
        · exact ⟨rfl, twins⟩
        · rw [whileOpen_of_isClosed isClosed,
            whileOpen_of_isClosed (twins.toResemble.isClosed.symm.trans isClosed)]
          exact ⟨rfl, twins⟩

theorem lastError (code : Int32) :
    InStep separation id id' (first.lastError conduct id code)
      (second.lastError conduct id' code) := by
  unfold Session.lastError
  rw [twins.toResemble.isClosed]
  cases second.isClosed id' with
  | true => exact ⟨rfl, twins⟩
  | false =>
    obtain ⟨same, told⟩ := twins.tell conduct (.errorMessage id) (.errorMessage id') rfl rfl rfl rfl
    have same := eq_of_heq same
    simp only [Bool.false_eq_true, if_false, same]
    exact ⟨rfl, told⟩

theorem fail (sql : String) (code : Int32) :
    InStep separation id id' (first.fail conduct id sql code : Except Error α × _)
      (second.fail conduct id' sql code) := by
  obtain ⟨same, told⟩ := twins.lastError conduct code
  simp only [Session.fail, same]
  exact ⟨rfl, told⟩

theorem check (sql : String) (code : Int32) :
    InStep separation id id' (first.check conduct id sql code)
      (second.check conduct id' sql code) := by
  unfold Session.check
  split
  · exact ⟨rfl, twins⟩
  · exact twins.fail conduct sql code

/-! ### Parameters -/

theorem bindText (index : Nat) (number : Int32) (s : String) :
    InStep separation id id' (first.bindText conduct ⟨id, index⟩ number s)
      (second.bindText conduct ⟨id', index⟩ number s) := by
  unfold Session.bindText
  split
  · exact ⟨rfl, twins⟩
  · exact .of_heq (twins.tell conduct (.bindText ⟨id, index⟩ number s.toUTF8)
      (.bindText ⟨id', index⟩ number s.toUTF8) rfl rfl rfl rfl)

theorem bindBlob (index : Nat) (number : Int32) (bytes : ByteArray) :
    InStep separation id id' (first.bindBlob conduct ⟨id, index⟩ number bytes)
      (second.bindBlob conduct ⟨id', index⟩ number bytes) := by
  unfold Session.bindBlob
  split
  · exact ⟨rfl, twins⟩
  · exact .of_heq (twins.tell conduct (.bindBlob ⟨id, index⟩ number bytes)
      (.bindBlob ⟨id', index⟩ number bytes) rfl rfl rfl rfl)

theorem bindValue (index : Nat) (number : Int32) (v : Value) :
    InStep separation id id' (first.bindValue conduct ⟨id, index⟩ number v)
      (second.bindValue conduct ⟨id', index⟩ number v) := by
  cases v with
  | null => exact .of_heq (twins.tell conduct (.bindNull ⟨id, index⟩ number)
      (.bindNull ⟨id', index⟩ number) rfl rfl rfl rfl)
  | int n => exact .of_heq (twins.tell conduct (.bindInt ⟨id, index⟩ number n)
      (.bindInt ⟨id', index⟩ number n) rfl rfl rfl rfl)
  | long n => exact .of_heq (twins.tell conduct (.bindInt64 ⟨id, index⟩ number n)
      (.bindInt64 ⟨id', index⟩ number n) rfl rfl rfl rfl)
  | double x => exact .of_heq (twins.tell conduct (.bindDouble ⟨id, index⟩ number x)
      (.bindDouble ⟨id', index⟩ number x) rfl rfl rfl rfl)
  | text s => exact twins.bindText conduct index number s
  | blob bytes => exact twins.bindBlob conduct index number bytes

theorem bindInput (index : Nat) (number : Int32) (input : Input) :
    InStep separation id id' (first.bindInput conduct ⟨id, index⟩ number input)
      (second.bindInput conduct ⟨id', index⟩ number input) := by
  cases input with
  | null => exact twins.bindValue conduct index number .null
  | int n => exact twins.bindValue conduct index number (.int n)
  | long n => exact twins.bindValue conduct index number (.long n)
  | double x => exact twins.bindValue conduct index number (.double x)
  | text s => exact twins.bindText conduct index number s
  | blob bytes => exact twins.bindBlob conduct index number bytes
  | value v => exact twins.bindValue conduct index number v

theorem bind (index : Nat) (number : Int32) (input : Input) :
    InStep separation id id' (first.bind conduct ⟨id, index⟩ number input)
      (second.bind conduct ⟨id', index⟩ number input) := by
  refine twins.onStatement index fun statement _ _ => ?_
  obtain ⟨same, bound⟩ := twins.bindInput conduct index number input
  simp only [same]
  exact bound.check conduct statement.sql _

theorem clearBindings (index : Nat) :
    InStep separation id id' (first.clearBindings conduct ⟨id, index⟩)
      (second.clearBindings conduct ⟨id', index⟩) := by
  refine twins.onStatement index fun statement _ _ => ?_
  obtain ⟨same, cleared⟩ := twins.tell conduct (.clearBindings ⟨id, index⟩)
    (.clearBindings ⟨id', index⟩) rfl rfl rfl rfl
  have same := eq_of_heq same
  simp only [same]
  exact cleared.check conduct statement.sql _

theorem parameterCount (index : Nat) :
    InStep separation id id' (first.parameterCount conduct ⟨id, index⟩)
      (second.parameterCount conduct ⟨id', index⟩) := by
  refine twins.onStatement index fun _ _ _ => ?_
  obtain ⟨same, told⟩ := twins.tell conduct (.bindParameterCount ⟨id, index⟩)
    (.bindParameterCount ⟨id', index⟩) rfl rfl rfl rfl
  exact ⟨congrArg Except.ok (eq_of_heq same), told⟩

/-! ### Columns -/

theorem columnCount (index : Nat) :
    InStep separation id id' (first.columnCount conduct ⟨id, index⟩)
      (second.columnCount conduct ⟨id', index⟩) := by
  refine twins.onStatement index fun _ _ _ => ?_
  obtain ⟨same, told⟩ := twins.tell conduct (.columnCount ⟨id, index⟩) (.columnCount ⟨id', index⟩)
    rfl rfl rfl rfl
  exact ⟨congrArg Except.ok (eq_of_heq same), told⟩

theorem columnName (index : Nat) (column : Int32) :
    InStep separation id id' (first.columnName conduct ⟨id, index⟩ column)
      (second.columnName conduct ⟨id', index⟩ column) := by
  refine twins.onStatement index fun _ _ _ => ?_
  obtain ⟨same, told⟩ := twins.tell conduct (.columnName ⟨id, index⟩ column)
    (.columnName ⟨id', index⟩ column) rfl rfl rfl rfl
  have same := eq_of_heq same
  simp only [same]
  exact ⟨rfl, told⟩

theorem readText (index : Nat) (column : Int32) :
    InStep separation id id' (first.readText conduct ⟨id, index⟩ column)
      (second.readText conduct ⟨id', index⟩ column) := by
  obtain ⟨same, read⟩ := twins.tell conduct (.columnText ⟨id, index⟩ column)
    (.columnText ⟨id', index⟩ column) rfl rfl rfl rfl
  have same := eq_of_heq same
  obtain ⟨same', sized⟩ := read.tell conduct (.columnBytes ⟨id, index⟩ column)
    (.columnBytes ⟨id', index⟩ column) rfl rfl rfl rfl
  have same' := eq_of_heq same'
  simp only [Session.readText, same]
  split
  · exact ⟨rfl, read⟩
  · simp only [same']
    exact ⟨rfl, sized⟩

theorem readBlob (index : Nat) (column : Int32) :
    InStep separation id id' (first.readBlob conduct ⟨id, index⟩ column)
      (second.readBlob conduct ⟨id', index⟩ column) := by
  obtain ⟨same, read⟩ := twins.tell conduct (.columnBlob ⟨id, index⟩ column)
    (.columnBlob ⟨id', index⟩ column) rfl rfl rfl rfl
  have same := eq_of_heq same
  obtain ⟨same', sized⟩ := read.tell conduct (.columnBytes ⟨id, index⟩ column)
    (.columnBytes ⟨id', index⟩ column) rfl rfl rfl rfl
  have same' := eq_of_heq same'
  simp only [Session.readBlob, same, same']
  split
  · exact ⟨rfl, sized⟩
  · split
    · exact ⟨rfl, sized⟩
    · exact ⟨rfl, sized⟩

theorem columnType (index : Nat) (column : Int32) :
    InStep separation id id' (first.native conduct (.columnType ⟨id, index⟩ column))
      (second.native conduct (.columnType ⟨id', index⟩ column)) :=
  .of_heq (twins.tell conduct (.columnType ⟨id, index⟩ column) (.columnType ⟨id', index⟩ column)
    rfl rfl rfl rfl)

theorem readValue (index : Nat) (column : Int32) :
    InStep separation id id' (first.readValue conduct ⟨id, index⟩ column)
      (second.readValue conduct ⟨id', index⟩ column) := by
  obtain ⟨same, typed⟩ := twins.columnType conduct index column
  simp only [Session.readValue, same]
  cases ColumnType.ofCode (second.native conduct (.columnType ⟨id', index⟩ column)).1 with
  | integer =>
    obtain ⟨same, read⟩ := typed.tell conduct (.columnInt64 ⟨id, index⟩ column)
      (.columnInt64 ⟨id', index⟩ column) rfl rfl rfl rfl
    exact ⟨congrArg integerValue (eq_of_heq same), read⟩
  | float =>
    obtain ⟨same, read⟩ := typed.tell conduct (.columnDouble ⟨id, index⟩ column)
      (.columnDouble ⟨id', index⟩ column) rfl rfl rfl rfl
    exact ⟨congrArg Value.double (eq_of_heq same), read⟩
  | text =>
    obtain ⟨same, read⟩ := typed.readText conduct index column
    exact ⟨congrArg (fun s? => s?.elim Value.null Value.text) same, read⟩
  | blob =>
    obtain ⟨same, read⟩ := typed.readBlob conduct index column
    exact ⟨congrArg (fun bytes? => Value.blob (bytes?.getD .empty)) same, read⟩
  | null => exact ⟨rfl, typed⟩

theorem column (index : Nat) (reading : Reading) (column : Int32) :
    InStep separation id id' (first.column conduct ⟨id, index⟩ reading column)
      (second.column conduct ⟨id', index⟩ reading column) := by
  refine twins.onStatement index fun _ _ _ => ?_
  have read : InStep separation id id' (first.readCell conduct ⟨id, index⟩ column reading)
      (second.readCell conduct ⟨id', index⟩ column reading) := by
    cases reading with
    | columnType | isNull =>
      obtain ⟨same, told⟩ := twins.columnType conduct index column
      simp only [Session.readCell, same]
      exact ⟨rfl, told⟩
    | int =>
      obtain ⟨same, told⟩ := twins.tell conduct (.columnInt ⟨id, index⟩ column)
        (.columnInt ⟨id', index⟩ column) rfl rfl rfl rfl
      exact ⟨congrArg Cell.int (eq_of_heq same), told⟩
    | long =>
      obtain ⟨same, told⟩ := twins.tell conduct (.columnInt64 ⟨id, index⟩ column)
        (.columnInt64 ⟨id', index⟩ column) rfl rfl rfl rfl
      exact ⟨congrArg Cell.long (eq_of_heq same), told⟩
    | double =>
      obtain ⟨same, told⟩ := twins.tell conduct (.columnDouble ⟨id, index⟩ column)
        (.columnDouble ⟨id', index⟩ column) rfl rfl rfl rfl
      exact ⟨congrArg Cell.double (eq_of_heq same), told⟩
    | text =>
      obtain ⟨same, told⟩ := twins.readText conduct index column
      exact ⟨congrArg Cell.text same, told⟩
    | blob =>
      obtain ⟨same, told⟩ := twins.readBlob conduct index column
      exact ⟨congrArg Cell.blob same, told⟩
    | value =>
      obtain ⟨same, told⟩ := twins.readValue conduct index column
      exact ⟨congrArg Cell.value same, told⟩
  exact ⟨congrArg Except.ok read.same, read.twins⟩

/-! ### Connections -/

theorem errorMessage :
    InStep separation id id' (first.errorMessage conduct id) (second.errorMessage conduct id') := by
  refine twins.whileOpen fun _ _ _ _ => ?_
  obtain ⟨same, told⟩ := twins.tell conduct (.errorMessage id) (.errorMessage id') rfl rfl rfl rfl
  exact ⟨congrArg (fun bytes? => Except.ok (ownedText bytes?)) (eq_of_heq same), told⟩

theorem errorCode :
    InStep separation id id' (first.errorCode conduct id) (second.errorCode conduct id') := by
  refine twins.whileOpen fun _ _ _ _ => ?_
  obtain ⟨same, told⟩ := twins.tell conduct (.errorCode id) (.errorCode id') rfl rfl rfl rfl
  exact ⟨congrArg (fun code => Except.ok (ResultCode.mk code)) (eq_of_heq same), told⟩

theorem changes :
    InStep separation id id' (first.changes conduct id) (second.changes conduct id') := by
  refine twins.whileOpen fun _ _ _ _ => ?_
  obtain ⟨same, told⟩ := twins.tell conduct (.changes id) (.changes id') rfl rfl rfl rfl
  exact ⟨congrArg Except.ok (eq_of_heq same), told⟩

theorem lastInsertedId :
    InStep separation id id' (first.lastInsertedId conduct id)
      (second.lastInsertedId conduct id') := by
  refine twins.whileOpen fun _ _ _ _ => ?_
  obtain ⟨same, told⟩ :=
    twins.tell conduct (.lastInsertRowId id) (.lastInsertRowId id') rfl rfl rfl rfl
  exact ⟨congrArg Except.ok (eq_of_heq same), told⟩

end Twins

/-! ### Requests in the course of which callbacks are asked -/

section Compiling

variable {conduct : Conduct library}

/-! What a request does after its call only adds to the log. -/

section Logged

variable {session : Session library} {sql : String} {connection : ConnectionHandle}

theorem log_suffix_step {id : StatementId} (canRun : session.CanRun id) :
    (session.native conduct (.step id)).2.log <:+ (session.step conduct id).2.log := by
  obtain ⟨statement, -, -, passed⟩ := onStatement_of_canRun canRun
  rw [Session.step, passed]
  dsimp only
  split
  · exact log_suffix_fail conduct (setState _ id _) _ _ _
  · exact List.suffix_refl _

theorem log_suffix_reset {id : StatementId} (canRun : session.CanRun id) :
    (session.native conduct (.reset id)).2.log <:+ (session.reset conduct id).2.log := by
  obtain ⟨statement, -, -, passed⟩ := onStatement_of_canRun canRun
  rw [Session.reset, passed]
  dsimp only
  split
  · exact List.suffix_refl _
  · exact log_suffix_check conduct (setState _ id _) _ _ _

theorem log_suffix_finalize {id : StatementId} {statement : StatementHandle}
    (found : session.statement? id = some statement) (isLive : statement.state ≠ .finalized) :
    ((session.setState id .finalized).native conduct (.finalize id)).2.log <:+
      (session.finalize conduct id).2.log := by
  simp only [Session.finalize, found, if_neg isLive]
  generalize (session.setState id .finalized).native conduct (.finalize id) = ran
  split
  · exact List.suffix_refl _
  · exact log_suffix_check conduct
      { ran.2 with statementTokens := ran.2.statementTokens.disposeToken id } _ _ _

theorem log_suffix_prepare {index : Nat} (isText : ¬holdsNul sql = true)
    (isShort : ¬maxByteCount < sql.utf8ByteSize)
    (passed : ∀ operation : ConnectionHandle → Except Error StatementId × Session library,
      session.whileOpen id operation = operation connection)
    (isNext : connection.statements.length = index) :
    (session.native conduct (.prepareV2 ⟨id, index⟩ sql)).2.log <:+
      (session.prepare conduct id sql).2.log := by
  subst isNext
  rw [Session.prepare, passed, if_neg isText, if_neg isShort]
  dsimp only
  split
  · exact log_suffix_fail conduct _ id sql _
  · split
    · exact List.suffix_refl _
    · exact List.suffix_refl _

theorem Decides.log_suffix_exec (decides : Decides conduct answer) (isText : ¬holdsNul sql = true)
    (passed : ∀ operation : ConnectionHandle → Except Error Unit × Session library,
      session.whileOpen id operation = operation connection) :
    (session.native conduct (.exec id sql)).2.log <:+ (session.exec conduct id sql).2.log := by
  rw [Session.exec, passed, if_neg isText]
  dsimp only
  split
  · exact List.suffix_refl _
  · split
    · exact log_suffix_fail conduct _ id sql _
    · exact (decides.quiet_native _ _).2

end Logged

variable (decides : Decides conduct answer) (twins : Twins separation id id' first second)

include decides twins

theorem Twins.step {index : Nat} (attested : Attested first (first.step conduct ⟨id, index⟩).2)
    (attested' : Attested second (second.step conduct ⟨id', index⟩).2) :
    InStep separation id id' (first.step conduct ⟨id, index⟩)
      (second.step conduct ⟨id', index⟩) := by
  refine twins.onStatement index fun statement canRun canRun' => ?_
  obtain ⟨same, ran⟩ := twins.call decides (.step ⟨id, index⟩) (.step ⟨id', index⟩) rfl rfl rfl
    (attested.mono (log_suffix_step canRun)) (attested'.mono (log_suffix_step canRun'))
  have same := eq_of_heq same
  simp only [same]
  split
  · exact (ran.setState index _).fail conduct statement.sql _
  · exact ⟨rfl, ran.setState index _⟩

theorem Twins.reset {index : Nat} (attested : Attested first (first.reset conduct ⟨id, index⟩).2)
    (attested' : Attested second (second.reset conduct ⟨id', index⟩).2) :
    InStep separation id id' (first.reset conduct ⟨id, index⟩)
      (second.reset conduct ⟨id', index⟩) := by
  refine twins.onStatement index fun statement canRun canRun' => ?_
  obtain ⟨same, ran⟩ := twins.call decides (.reset ⟨id, index⟩) (.reset ⟨id', index⟩) rfl rfl rfl
    (attested.mono (log_suffix_reset canRun)) (attested'.mono (log_suffix_reset canRun'))
  have same := eq_of_heq same
  simp only [same]
  split
  · exact ⟨rfl, ran.setState index .prepared⟩
  · exact (ran.setState index .prepared).check conduct statement.sql _

theorem Twins.exec {sql : String} (attested : Attested first (first.exec conduct id sql).2)
    (attested' : Attested second (second.exec conduct id' sql).2) :
    InStep separation id id' (first.exec conduct id sql) (second.exec conduct id' sql) := by
  obtain ⟨refused, refused'⟩ | ⟨connection, address?, -, -, passed, passed'⟩ := twins.whileOpen_cases
  · rw [Session.exec, Session.exec, refused, refused']
    exact ⟨rfl, twins⟩
  by_cases isText : holdsNul sql = true
  · rw [Session.exec, Session.exec, passed, passed', if_pos isText, if_pos isText]
    exact ⟨rfl, twins⟩
  obtain ⟨same, ran⟩ := twins.call decides (.exec id sql) (.exec id' sql) rfl rfl rfl
    (attested.mono (decides.log_suffix_exec isText passed))
    (attested'.mono (decides.log_suffix_exec isText passed'))
  have same := eq_of_heq same
  rw [Session.exec, Session.exec, passed, passed', if_neg isText, if_neg isText]
  simp only [same]
  split
  · exact ⟨rfl, ran⟩
  · split
    · exact ran.fail conduct sql _
    · rename_i bytes _
      exact ⟨rfl, (ran.tell conduct (.free id bytes) (.free id' bytes) rfl rfl rfl rfl).2⟩

/-- What is made has the same place among the statements. -/
theorem Twins.prepare {sql : String} (attested : Attested first (first.prepare conduct id sql).2)
    (attested' : Attested second (second.prepare conduct id' sql).2) :
    Twins separation id id' (first.prepare conduct id sql).2 (second.prepare conduct id' sql).2 ∧
      ∃ made : Except Error Nat, (first.prepare conduct id sql).1 = made.map (.mk id) ∧
        (second.prepare conduct id' sql).1 = made.map (.mk id') := by
  obtain ⟨refused, refused'⟩ | ⟨connection, address?, -, -, passed, passed'⟩ := twins.whileOpen_cases
  · rw [Session.prepare, Session.prepare, refused, refused']
    exact ⟨twins, .error _, rfl, rfl⟩
  by_cases isText : holdsNul sql = true
  · rw [Session.prepare, Session.prepare, passed, passed', if_pos isText, if_pos isText]
    exact ⟨twins, .error _, rfl, rfl⟩
  by_cases isLong : maxByteCount < sql.utf8ByteSize
  · rw [Session.prepare, Session.prepare, passed, passed', if_neg isText, if_neg isText,
      if_pos isLong, if_pos isLong]
    exact ⟨twins, .error _, rfl, rfl⟩
  obtain ⟨same, ran⟩ := twins.call decides (.prepareV2 ⟨id, connection.statements.length⟩ sql)
    (.prepareV2 ⟨id', connection.statements.length⟩ sql) rfl rfl rfl
    (attested.mono (log_suffix_prepare isText isLong passed rfl))
    (attested'.mono (log_suffix_prepare isText isLong passed' rfl))
  rw [Session.prepare, Session.prepare, passed, passed', if_neg isText, if_neg isText,
    if_neg isLong, if_neg isLong]
  have same := eq_of_heq same
  simp only [same]
  split
  · obtain ⟨told, failed⟩ := ran.lastError conduct
      (second.native conduct (.prepareV2 ⟨id', connection.statements.length⟩ sql)).1.code
    simp only [Session.fail, told]
    exact ⟨failed, .error _, rfl, rfl⟩
  · split
    · exact ⟨ran.update _ (fun _ => rfl) fun _ => rfl, .ok connection.statements.length, rfl, rfl⟩
    · exact ⟨ran, .error _, rfl, rfl⟩

theorem Twins.finalize {index : Nat}
    (attested : Attested first (first.finalize conduct ⟨id, index⟩).2)
    (attested' : Attested second (second.finalize conduct ⟨id', index⟩).2) :
    InStep separation id id' (first.finalize conduct ⟨id, index⟩)
      (second.finalize conduct ⟨id', index⟩) := by
  cases found : second.statement? ⟨id', index⟩ with
  | none =>
    unfold Session.finalize
    rw [twins.toResemble.statement? index, found]
    exact ⟨rfl, twins⟩
  | some statement =>
    have held := (twins.toResemble.statement? index).trans found
    by_cases isGone : statement.state = .finalized
    · simp only [Session.finalize, held, found, if_pos isGone]
      exact ⟨rfl, twins⟩
    · obtain ⟨same, ran⟩ := (twins.setState index .finalized).call decides (.finalize ⟨id, index⟩)
        (.finalize ⟨id', index⟩) rfl rfl rfl
        ((attested.mono (log_suffix_finalize held isGone)).setState _ _)
        ((attested'.mono (log_suffix_finalize found isGone)).setState _ _)
      have same := eq_of_heq same
      have disposed := ran.disposeStatement index
      simp only [Session.finalize, held, found, if_neg isGone, same]
      split
      · exact ⟨rfl, disposed⟩
      · exact disposed.check conduct statement.sql _

end Compiling

/-! ### Closing and authorizers -/

theorem authorizer?_setAddress_none (session : Session library) (id : Nat) (address? : Option Nat) :
    ((session.setAddress id none).dropCallback address?).authorizer? id = none := by
  have unset : (session.setAddress id none).address? id = none := by
    rw [Session.address?, setAddress, connection?_updateConnection_self]
    cases session.connection? id <;> rfl
  rw [authorizer?, address?_congr (connections_dropCallback _ _), unset]
  rfl

theorem Resemble.closeNative (resemble : Resemble separation id id' first second)
    (conduct : Conduct library) :
    InStep separation id id' (first.closeNative conduct id) (second.closeNative conduct id') := by
  obtain ⟨-, unset⟩ := resemble.call (.setAuthorizer id none) (.setAuthorizer id' none) rfl rfl rfl
    rfl conduct
  obtain ⟨same, closed⟩ := unset.call (.closeV2 id) (.closeV2 id') rfl rfl rfl rfl conduct
  refine ⟨eq_of_heq same, (closed.setAddress none none).dropCallback _ _, ?_⟩
  exact (authorizer?_setAddress_none _ id _).trans (authorizer?_setAddress_none _ id' _).symm

theorem Twins.markClosed (twins : Twins separation id id' first second) :
    Twins separation id id' (first.markClosed id) (second.markClosed id') :=
  twins.update _ (fun _ => rfl) fun _ => rfl

theorem Twins.close (twins : Twins separation id id' first second) (conduct : Conduct library) :
    InStep separation id id' (first.close conduct id) (second.close conduct id') := by
  unfold Session.close
  rw [twins.toResemble.isClosed]
  split
  · exact ⟨rfl, twins⟩
  · obtain ⟨same, closed⟩ := twins.markClosed.toResemble.closeNative conduct
    simp only [same]
    split
    · exact ⟨rfl, closed.disposeConnection⟩
    · exact ⟨rfl, closed.disposeConnection⟩

theorem Twins.setAuthorizer {conduct : Conduct library}
    (twins : Twins separation id id' first second) {callback? : Option Callback}
    (attested : Attested first (first.setAuthorizer conduct id callback?).2)
    (attested' : Attested second (second.setAuthorizer conduct id' callback?).2) :
    InStep separation id id' (first.setAuthorizer conduct id callback?)
      (second.setAuthorizer conduct id' callback?) := by
  obtain ⟨refused, refused'⟩ | ⟨connection, address?, found, isOpen, passed, passed'⟩ :=
    twins.whileOpen_cases
  · rw [Session.setAuthorizer, Session.setAuthorizer, refused, refused']
    exact ⟨rfl, twins⟩
  have isOpen : first.isClosed id = false :=
    first.isClosed_eq_false_iff.mpr ⟨connection, found, isOpen⟩
  obtain ⟨done, set⟩ := setAuthorizer_ok attested.custody conduct isOpen callback? attested.registered
  obtain ⟨done', set'⟩ := setAuthorizer_ok attested'.custody conduct
    (twins.toResemble.isClosed.symm.trans isOpen) callback? attested'.registered
  refine ⟨done.trans done'.symm, ?_, set.trans set'.symm⟩
  obtain ⟨same, registered⟩ := (twins.toResemble.box callback?).call
    (.setAuthorizer id (first.box callback?).1) (.setAuthorizer id' (second.box callback?).1)
    (by cases callback? <;> rfl) rfl rfl rfl conduct
  have same := eq_of_heq same
  rw [Session.setAuthorizer, passed] at done ⊢
  rw [Session.setAuthorizer, passed']
  simp only [same] at done ⊢
  split
  · exact (registered.setAddress _ _).dropCallback _ _
  · rename_i failure
    rw [if_neg failure] at done
    cases done

/-! ### Opening -/

theorem Resemble.addConnection (resemble : Resemble separation id id' first second)
    (isNext : id = first.connections.length) (isNext' : id' = second.connections.length)
    (path : String) :
    Twins separation id id' (first.addConnection path) (second.addConnection path) := by
  have made {session : Session library} {id : Nat} (isNext : id = session.connections.length) :
      (session.addConnection path).connection? id = some ⟨path, false, none, [], true⟩ :=
    (connection?_addConnection path id).trans (if_pos isNext)
  refine ⟨⟨?_, resemble.token, resemble.statementToken, resemble.asked, resemble.view⟩, ?_⟩
  · rw [made isNext, made isNext']
  · rw [authorizer?, authorizer?, address?, address?, made isNext, made isNext']
    rfl

/-- New connections in memory are twins. -/
theorem openWith_alike (separation : Separation library) (vacant : first.Vacant)
    (vacant' : second.Vacant) {config : OpenConfig} (inMemory : config.path = ":memory:")
    (conduct : Conduct library) :
    (∃ error, (first.openWith conduct config).1 = .error error ∧
      (second.openWith conduct config).1 = .error error) ∨
    ((first.openWith conduct config).1 = .ok first.connections.length ∧
      (second.openWith conduct config).1 = .ok second.connections.length ∧
      Twins separation first.connections.length second.connections.length
        (first.openWith conduct config).2 (second.openWith conduct config).2) := by
  unfold openWith
  split
  · exact .inl ⟨_, rfl, rfl⟩
  have opensInMemory : (Call.openV2 first.connections.length config.path
      config.flags.code).opensInMemory = true := decide_eq_true inMemory
  have alike : (Call.openV2 first.connections.length config.path config.flags.code).anonymous =
      (Call.openV2 second.connections.length config.path config.flags.code).anonymous := rfl
  obtain ⟨opening, world, opening', world', called, called', same, looks⟩ :
      ∃ opening world opening' world',
        first.native conduct (.openV2 first.connections.length config.path config.flags.code) =
          (opening, first.called (.openV2 first.connections.length config.path config.flags.code)
            opening world) ∧
        second.native conduct (.openV2 second.connections.length config.path config.flags.code) =
          (opening', second.called (.openV2 second.connections.length config.path config.flags.code)
            opening' world') ∧
        HEq opening opening' ∧ separation.view first.connections.length world =
          separation.view second.connections.length world' :=
    native_alike separation alike (.inl opensInMemory) rfl conduct
  obtain rfl := eq_of_heq same
  simp only [called, called']
  split
  · refine .inr ⟨rfl, rfl, ?_⟩
    have absent (session : Session library) : session.connection? session.connections.length = none :=
      List.getElem?_eq_none (Nat.le_refl _)
    have opened : Resemble separation first.connections.length second.connections.length
        (first.called (.openV2 first.connections.length config.path config.flags.code) opening world)
        (second.called (.openV2 second.connections.length config.path config.flags.code) opening
          world') := {
      handle := congrArg (Option.map ConnectionHandle.anonymous)
        ((absent first).trans (absent second).symm)
      token := congrArg _ ((vacant.token (Nat.le_refl _)).trans (vacant'.token (Nat.le_refl _)).symm)
      statementToken := fun index => congrArg _ ((vacant.statementToken (Nat.le_refl _) index).trans
        (vacant'.statementToken (Nat.le_refl _) index).symm)
      asked := (vacant.asked (Nat.le_refl _)).trans (vacant'.asked (Nat.le_refl _)).symm
      view := looks }
    split
    · have patient := (opened.call
        (.busyTimeout first.connections.length config.busyMilliseconds)
        (.busyTimeout second.connections.length config.busyMilliseconds) rfl rfl rfl rfl conduct).2
      have kept (session : Session library) (id : Nat) (time : Int32) :
          (session.native conduct (.busyTimeout id time)).2.connections = session.connections :=
        (Quiet.native (.busyTimeout id time) rfl conduct session).connections
      refine patient.addConnection ?_ ?_ config.path
      · rw [kept]
        rfl
      · rw [kept]
        rfl
    · exact opened.addConnection rfl rfl config.path
  · exact .inl ⟨_, rfl, rfl⟩

end Session

end SqliteBridge
