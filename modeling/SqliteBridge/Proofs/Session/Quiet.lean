import SqliteBridge.Proofs.Session.Steps

/-! Quiet operations. To bind, to read and to tell is to make calls that ask nothing, so nothing but
the library and the record changes. -/
namespace SqliteBridge.Session

open Native (Call Library)

variable {library : Library} {motion : Motion library} {conduct : Conduct library}
  {session before after : Session library} {α : Type}

/-- Everything but the library and the record is as it was. -/
structure Quiet (before after : Session library) : Prop where
  connections : after.connections = before.connections
  callbacks : after.callbacks = before.callbacks
  connectionTokens : after.connectionTokens = before.connectionTokens
  statementTokens : after.statementTokens = before.statementTokens

namespace Quiet

theorem refl : Quiet session session := ⟨rfl, rfl, rfl, rfl⟩

theorem symm (quiet : Quiet before after) : Quiet after before :=
  ⟨quiet.connections.symm, quiet.callbacks.symm, quiet.connectionTokens.symm,
    quiet.statementTokens.symm⟩

theorem trans {first second third : Session library} (early : Quiet first second)
    (late : Quiet second third) : Quiet first third :=
  ⟨late.connections.trans early.connections, late.callbacks.trans early.callbacks,
    late.connectionTokens.trans early.connectionTokens,
    late.statementTokens.trans early.statementTokens⟩

theorem connection? (quiet : Quiet before after) (id : Nat) :
    after.connection? id = before.connection? id := connection?_congr quiet.connections id

theorem isClosed (quiet : Quiet before after) (id : Nat) :
    after.isClosed id = before.isClosed id := isClosed_congr quiet.connections id

theorem state? (quiet : Quiet before after) (id : StatementId) :
    after.state? id = before.state? id := state?_congr quiet.connections id

theorem canRun {id : StatementId} (quiet : Quiet before after) (guard : before.CanRun id) :
    after.CanRun id :=
  ⟨(isFinalized_congr quiet.connections id).trans guard.isLive,
    (quiet.isClosed id.connection).trans guard.isOpen⟩

theorem native (call : Call) (silent : call.compiles = false) (conduct : Conduct library)
    (session : Session library) : Quiet session (session.native conduct call).2 := by
  obtain ⟨result, world, -, called⟩ :=
    native_of_compiles_eq_false (.any library) call silent conduct session
  rw [called]
  exact ⟨rfl, rfl, rfl, rfl⟩

end Quiet

theorem quiet_lastError (conduct : Conduct library) (session : Session library) (id : Nat)
    (code : Int32) : Quiet session (session.lastError conduct id code).2 := by
  obtain kept | ⟨bytes?, world, -, told⟩ := lastError_cases (.any library) conduct session id code
  · rw [kept]
    exact .refl
  · rw [told]
    exact ⟨rfl, rfl, rfl, rfl⟩

theorem quiet_check (conduct : Conduct library) (session : Session library) (id : Nat)
    (sql : String) (code : Int32) : Quiet session (session.check conduct id sql code).2 := by
  obtain kept | ⟨bytes?, world, -, told⟩ :=
    check_cases (.any library) conduct session id sql code
  · rw [kept]
    exact .refl
  · rw [told]
    exact ⟨rfl, rfl, rfl, rfl⟩

theorem quiet_whileOpen {id : Nat} {operation : ConnectionHandle → Except Error α × Session library}
    (runs : ∀ connection, Quiet session (operation connection).2) :
    Quiet session (session.whileOpen id operation).2 := by
  unfold whileOpen
  split
  · exact .refl
  · split
    · exact .refl
    · exact runs _

theorem quiet_onStatement {id : StatementId}
    {operation : StatementHandle → Except Error α × Session library}
    (runs : ∀ statement, Quiet session (operation statement).2) :
    Quiet session (session.onStatement id operation).2 := by
  unfold onStatement
  split
  · exact .refl
  · split
    · exact .refl
    · exact quiet_whileOpen fun _ => runs _

/-! ### Parameters -/

theorem quiet_bindText (conduct : Conduct library) (session : Session library) (id : StatementId)
    (number : Int32) (s : String) : Quiet session (session.bindText conduct id number s).2 := by
  unfold bindText
  split
  · exact .refl
  · exact .native _ rfl conduct session

theorem quiet_bindBlob (conduct : Conduct library) (session : Session library) (id : StatementId)
    (number : Int32) (bytes : ByteArray) :
    Quiet session (session.bindBlob conduct id number bytes).2 := by
  unfold bindBlob
  split
  · exact .refl
  · exact .native _ rfl conduct session

theorem quiet_bindValue (conduct : Conduct library) (session : Session library) (id : StatementId)
    (number : Int32) (v : Value) : Quiet session (session.bindValue conduct id number v).2 := by
  cases v with
  | null | int | long | double => exact .native _ rfl conduct session
  | text s => exact quiet_bindText conduct session id number s
  | blob bytes => exact quiet_bindBlob conduct session id number bytes

theorem quiet_bindInput (conduct : Conduct library) (session : Session library) (id : StatementId)
    (number : Int32) (input : Input) :
    Quiet session (session.bindInput conduct id number input).2 := by
  cases input with
  | null | int | long | double => exact .native _ rfl conduct session
  | text s => exact quiet_bindText conduct session id number s
  | blob bytes => exact quiet_bindBlob conduct session id number bytes
  | value v => exact quiet_bindValue conduct session id number v

theorem quiet_bind (conduct : Conduct library) (session : Session library) (id : StatementId)
    (number : Int32) (input : Input) : Quiet session (session.bind conduct id number input).2 :=
  quiet_onStatement fun statement =>
    (quiet_bindInput conduct session id number input).trans
      (quiet_check conduct _ id.connection statement.sql _)

theorem quiet_clearBindings (conduct : Conduct library) (session : Session library)
    (id : StatementId) : Quiet session (session.clearBindings conduct id).2 :=
  quiet_onStatement fun statement =>
    (Quiet.native (.clearBindings id) rfl conduct session).trans
      (quiet_check conduct _ id.connection statement.sql _)

theorem quiet_bindFrom (conduct : Conduct library) (session : Session library) (id : StatementId)
    (number : Nat) (values : List Value) :
    Quiet session (session.bindFrom conduct id number values).2 := by
  induction values generalizing session number with
  | nil => exact .refl
  | cons value values ih =>
    have bound := quiet_bind conduct session id (.ofNat number) (.value value)
    unfold bindFrom
    split
    · exact .refl
    · split <;> rename_i made <;> rw [made] at bound
      · exact bound
      · exact bound.trans (ih _ (number + 1))

/-! ### Columns -/

theorem quiet_readText (conduct : Conduct library) (session : Session library) (id : StatementId)
    (column : Int32) : Quiet session (session.readText conduct id column).2 := by
  have read := Quiet.native (.columnText id column) rfl conduct session
  unfold readText
  dsimp only
  split
  · exact read
  · exact read.trans (.native (.columnBytes id column) rfl conduct _)

theorem quiet_readBlob (conduct : Conduct library) (session : Session library) (id : StatementId)
    (column : Int32) : Quiet session (session.readBlob conduct id column).2 := by
  have read := (Quiet.native (.columnBlob id column) rfl conduct session).trans
    (.native (.columnBytes id column) rfl conduct _)
  unfold readBlob
  dsimp only
  split
  · exact read
  · split
    · exact read
    · exact read

theorem quiet_readValue (conduct : Conduct library) (session : Session library) (id : StatementId)
    (column : Int32) : Quiet session (session.readValue conduct id column).2 := by
  have typed := Quiet.native (.columnType id column) rfl conduct session
  unfold readValue
  dsimp only
  split
  · exact typed.trans (.native (.columnInt64 id column) rfl conduct _)
  · exact typed.trans (.native (.columnDouble id column) rfl conduct _)
  · exact typed.trans (quiet_readText conduct _ id column)
  · exact typed.trans (quiet_readBlob conduct _ id column)
  · exact typed

theorem quiet_readCell (conduct : Conduct library) (session : Session library) (id : StatementId)
    (column : Int32) (reading : Reading) :
    Quiet session (session.readCell conduct id column reading).2 := by
  cases reading with
  | columnType | isNull | int | long | double => exact .native _ rfl conduct session
  | text => exact quiet_readText conduct session id column
  | blob => exact quiet_readBlob conduct session id column
  | value => exact quiet_readValue conduct session id column

/-! ### Requests -/

theorem quiet_errorMessage (conduct : Conduct library) (session : Session library) (id : Nat) :
    Quiet session (session.errorMessage conduct id).2 :=
  quiet_whileOpen fun _ => .native (.errorMessage id) rfl conduct session

theorem quiet_errorCode (conduct : Conduct library) (session : Session library) (id : Nat) :
    Quiet session (session.errorCode conduct id).2 :=
  quiet_whileOpen fun _ => .native (.errorCode id) rfl conduct session

theorem quiet_changes (conduct : Conduct library) (session : Session library) (id : Nat) :
    Quiet session (session.changes conduct id).2 :=
  quiet_whileOpen fun _ => .native (.changes id) rfl conduct session

theorem quiet_lastInsertedId (conduct : Conduct library) (session : Session library) (id : Nat) :
    Quiet session (session.lastInsertedId conduct id).2 :=
  quiet_whileOpen fun _ => .native (.lastInsertRowId id) rfl conduct session

theorem quiet_parameterCount (conduct : Conduct library) (session : Session library)
    (id : StatementId) : Quiet session (session.parameterCount conduct id).2 :=
  quiet_onStatement fun _ => .native (.bindParameterCount id) rfl conduct session

theorem quiet_columnCount (conduct : Conduct library) (session : Session library)
    (id : StatementId) : Quiet session (session.columnCount conduct id).2 :=
  quiet_onStatement fun _ => .native (.columnCount id) rfl conduct session

theorem quiet_columnName (conduct : Conduct library) (session : Session library)
    (id : StatementId) (column : Int32) : Quiet session (session.columnName conduct id column).2 :=
  quiet_onStatement fun _ => .native (.columnName id column) rfl conduct session

theorem quiet_column (conduct : Conduct library) (session : Session library) (id : StatementId)
    (reading : Reading) (column : Int32) :
    Quiet session (session.column conduct id reading column).2 :=
  quiet_onStatement fun _ => quiet_readCell conduct session id column reading

/-- The requests that compile nothing, and that make no handle, change none and end none. -/
def Request.isQuiet : Request → Bool
  | openWith _ | close _ | prepare _ _ | exec _ _ | setAuthorizer _ _ | step _ | reset _
  | finalize _ => false
  | _ => true

theorem quiet_perform {request : Request} (isQuiet : request.isQuiet = true)
    (conduct : Conduct library) (session : Session library) :
    Quiet session (session.perform conduct request).2 := by
  cases request with
  | openWith | close | prepare | exec | setAuthorizer | step | reset | finalize => cases isQuiet
  | errorMessage id => exact quiet_errorMessage conduct session id
  | errorCode id => exact quiet_errorCode conduct session id
  | changes id => exact quiet_changes conduct session id
  | lastInsertedId id => exact quiet_lastInsertedId conduct session id
  | clearBindings id => exact quiet_clearBindings conduct session id
  | parameterCount id => exact quiet_parameterCount conduct session id
  | bind id number input => exact quiet_bind conduct session id number input
  | columnCount id => exact quiet_columnCount conduct session id
  | columnName id column => exact quiet_columnName conduct session id column
  | column id reading column => exact quiet_column conduct session id reading column
  | describe | version => exact .refl

end SqliteBridge.Session
