import SqliteBridge.Proofs.Session.Unison

/-! Acts of twins. The same act about two connections that cannot be told apart ends alike for both,
and they are twins after it: both are dropped or neither is, and each gets a token if there is room
in the tables. -/
namespace SqliteBridge

open Native (Call Library)

/-! ### Tokens -/

/-- Whether a token was refused because its table is full. -/
def lacksRoom {α : Type} : Except Failure α → Bool
  | .error (.refused (.exhausted _)) => true
  | _ => false

namespace Handle.Population

variable {α β : Type} [DecidableEq α] [DecidableEq β] {population population' : Population α}
  {object : α} {other : Population β} {object' : β}

theorem toToken_of_unset (matched : Matched population)
    (unset : population.reference object = .unset)
    (room : lacksRoom (population.toToken object).1 = false) :
    ∃ token population', Adopted population object token population' ∧
      population.toToken object = (.ok token, population') := by
  obtain ⟨_, live, -⟩ | ⟨disposed, -⟩ | ⟨-, made⟩ | ⟨-, adopted⟩ := toToken_cases matched object
  · cases unset.symm.trans live
  · cases unset.symm.trans disposed
  · rw [made] at room
    cases room
  · exact adopted

/-- Objects whose references differ in the value of the token alone. -/
theorem toToken_alike (matched : Matched population) (matched' : Matched other)
    (same : (population.reference object).anonymous = (other.reference object').anonymous)
    (room : lacksRoom (population.toToken object).1 = false)
    (room' : lacksRoom (other.toToken object').1 = false) :
    ((∃ token token', (population.toToken object).1 = .ok token ∧
        (other.toToken object').1 = .ok token') ∨
      ((population.toToken object).1 = .error (.aborted disposedMessage) ∧
        (other.toToken object').1 = .error (.aborted disposedMessage))) ∧
    ((population.toToken object).2.reference object).anonymous =
      ((other.toToken object').2.reference object').anonymous := by
  cases state : population.reference object with
  | live token =>
    cases state' : other.reference object' with
    | live token' =>
      rw [toToken_live state, toToken_live state']
      exact ⟨.inl ⟨token, token', rfl, rfl⟩, same⟩
    | unset | disposed =>
      rw [state, state'] at same
      cases same
  | disposed =>
    cases state' : other.reference object' with
    | disposed =>
      rw [toToken_disposed state, toToken_disposed state']
      exact ⟨.inr ⟨rfl, rfl⟩, same⟩
    | unset | live =>
      rw [state, state'] at same
      cases same
  | unset =>
    cases state' : other.reference object' with
    | unset =>
      obtain ⟨token, _, adopted, made⟩ := toToken_of_unset matched state room
      obtain ⟨token', _, adopted', made'⟩ := toToken_of_unset matched' state' room'
      rw [made, made', adopted.reference_eq, adopted'.reference_eq, if_pos rfl, if_pos rfl]
      exact ⟨.inl ⟨token, token', rfl, rfl⟩, rfl⟩
    | live | disposed =>
      rw [state, state'] at same
      cases same

end Handle.Population

namespace Session

/-! ### Acts about another connection -/

/-- The same request about another connection. -/
def Request.withConnection (id : Nat) : Request → Request
  | openWith config => openWith config
  | close _ => close id
  | prepare _ sql => prepare id sql
  | errorMessage _ => errorMessage id
  | errorCode _ => errorCode id
  | exec _ sql => exec id sql
  | changes _ => changes id
  | lastInsertedId _ => lastInsertedId id
  | setAuthorizer _ callback? => setAuthorizer id callback?
  | step statement => step ⟨id, statement.index⟩
  | reset statement => reset ⟨id, statement.index⟩
  | finalize statement => finalize ⟨id, statement.index⟩
  | clearBindings statement => clearBindings ⟨id, statement.index⟩
  | parameterCount statement => parameterCount ⟨id, statement.index⟩
  | bind statement number input => bind ⟨id, statement.index⟩ number input
  | columnCount statement => columnCount ⟨id, statement.index⟩
  | columnName statement number => columnName ⟨id, statement.index⟩ number
  | column statement reading number => column ⟨id, statement.index⟩ reading number
  | describe code => describe code
  | version => version

/-- The same act about another connection. -/
def Act.withConnection (id : Nat) : Act → Act
  | perform request => perform (request.withConnection id)
  | connectionToken _ => connectionToken id
  | statementToken statement => statementToken ⟨id, statement.index⟩
  | releaseConnection _ => releaseConnection id
  | releaseStatement statement => releaseStatement ⟨id, statement.index⟩
  | settleConnection _ => settleConnection id
  | settleStatement statement => settleStatement ⟨id, statement.index⟩

def Reply.withConnection (id : Nat) : Reply → Reply
  | connection _ => connection id
  | statement made => statement ⟨id, made.index⟩
  | reply => reply

/-- Whether an act asks for no token. -/
def Act.isTokenless : Act → Bool
  | connectionToken _ => false
  | statementToken _ => false
  | _ => true

theorem Act.connection?_withConnection {act : Act} {id other : Nat}
    (about : act.connection? = some other) : (act.withConnection id).connection? = some id := by
  cases act with
  | perform request => cases request <;> first | rfl | cases about
  | _ => rfl

theorem Act.withConnection_withConnection (act : Act) (id id' : Nat) :
    (act.withConnection id).withConnection id' = act.withConnection id' := by
  cases act with
  | perform request => cases request <;> rfl
  | _ => rfl

theorem Reply.withConnection_withConnection (reply : Reply) (id id' : Nat) :
    (reply.withConnection id).withConnection id' = reply.withConnection id' := by
  cases reply <;> rfl

/-- The same reply, but for the numbers of the connections. -/
def SameReply (id id' : Nat) (one other : Except Error Reply) : Prop :=
  ∃ reply : Except Error Reply,
    one = reply.map (Reply.withConnection id) ∧ other = reply.map (Reply.withConnection id')

variable {library : Library} {separation : Separation library} {conduct : Conduct library}
  {answer : Callback → List (Option Callback × AuthorizationRequest) → Answer}
  {first second : Session library} {id id' : Nat} {α : Type}

theorem InStep.replying {one other : Except Error α × Session library} {embed : α → Reply}
    (plain : ∀ a id, (embed a).withConnection id = embed a)
    (inStep : InStep separation id id' one other) :
    SameReply id id' (replying embed one).1 (replying embed other).1 ∧
      Twins separation id id' (replying embed one).2 (replying embed other).2 := by
  refine ⟨⟨one.1.map embed, ?_, ?_⟩, inStep.twins⟩
  · simp only [Session.replying]
    cases one.1 with
    | error => rfl
    | ok a => exact congrArg Except.ok (plain a id).symm
  · simp only [Session.replying, ← inStep.same]
    cases one.1 with
    | error => rfl
    | ok a => exact congrArg Except.ok (plain a id').symm

/-! ### Careful callbacks -/

/-- Acts about one connection, in which no token is asked for. -/
def About (id : Nat) (act : Act) : Prop := act.connection? = some id ∧ act.isTokenless = true

theorem touched_about_iff {other : Nat} : Touched (About id) other ↔ other = id := by
  constructor
  · rintro ⟨act, ⟨about, -⟩, about'⟩
    exact Option.some.inj (about'.symm.trans about)
  · rintro rfl
    exact ⟨.settleConnection other, ⟨rfl, rfl⟩, rfl⟩

theorem Decides.path (decides : Decides conduct answer) (motion : Motion library) {act : Act}
    (about : act.connection? = some id) (tokenless : act.isTokenless = true)
    (session : Session library) : Path motion (About id) session (act.run conduct session) := by
  refine act_path act ⟨about, tokenless⟩ fun other about' => ⟨?_, fun callback request during => ?_⟩
  · exact touched_about_iff.mpr (Option.some.inj (about'.symm.trans about))
  · rw [decides.leaves]

/-! ### Requests -/

section Performing

variable (decides : Decides conduct answer) (twins : Twins separation id id' first second)

include decides twins

theorem Twins.perform {request : Request} (about : request.target ≠ .nothing)
    (attested : Attested first (first.perform conduct (request.withConnection id)).2)
    (attested' : Attested second (second.perform conduct (request.withConnection id')).2) :
    SameReply id id' (first.perform conduct (request.withConnection id)).1
        (second.perform conduct (request.withConnection id')).1 ∧
      Twins separation id id' (first.perform conduct (request.withConnection id)).2
        (second.perform conduct (request.withConnection id')).2 := by
  cases request with
  | openWith | describe | version => exact absurd rfl about
  | close => exact (twins.close conduct).replying fun _ _ => rfl
  | prepare _ sql =>
    obtain ⟨prepared, made, same, same'⟩ := twins.prepare decides attested attested'
    refine ⟨⟨made.map fun index => .statement ⟨0, index⟩, ?_, ?_⟩, prepared⟩
    · simp only [Session.perform, Request.withConnection, Session.replying, same]
      cases made <;> rfl
    · simp only [Session.perform, Request.withConnection, Session.replying, same']
      cases made <;> rfl
  | errorMessage => exact (twins.errorMessage conduct).replying fun _ _ => rfl
  | errorCode => exact (twins.errorCode conduct).replying fun _ _ => rfl
  | exec => exact (twins.exec decides attested attested').replying fun _ _ => rfl
  | changes => exact (twins.changes conduct).replying fun _ _ => rfl
  | lastInsertedId => exact (twins.lastInsertedId conduct).replying fun _ _ => rfl
  | setAuthorizer => exact (twins.setAuthorizer attested attested').replying fun _ _ => rfl
  | step => exact (twins.step decides attested attested').replying fun _ _ => rfl
  | reset => exact (twins.reset decides attested attested').replying fun _ _ => rfl
  | finalize => exact (twins.finalize decides attested attested').replying fun _ _ => rfl
  | clearBindings => exact (twins.clearBindings conduct _).replying fun _ _ => rfl
  | parameterCount => exact (twins.parameterCount conduct _).replying fun _ _ => rfl
  | bind _ number input => exact (twins.bind conduct _ number input).replying fun _ _ => rfl
  | columnCount => exact (twins.columnCount conduct _).replying fun _ _ => rfl
  | columnName _ column => exact (twins.columnName conduct _ column).replying fun _ _ => rfl
  | column _ reading number =>
    exact (twins.column conduct _ reading number).replying fun _ _ => rfl

end Performing

/-! ### Dropping -/

theorem Twins.settleConnection (twins : Twins separation id id' first second)
    (conduct : Conduct library) :
    Twins separation id id' (first.settleConnection conduct id)
      (second.settleConnection conduct id') := by
  unfold Session.settleConnection
  rw [twins.toResemble.isConnectionReachable, twins.toResemble.isClosed]
  split
  · exact twins
  · exact (twins.markClosed.toResemble.closeNative conduct).twins

theorem Twins.releaseConnection (twins : Twins separation id id' first second)
    (conduct : Conduct library) :
    Twins separation id id' (first.releaseConnection conduct id)
      (second.releaseConnection conduct id') :=
  Twins.settleConnection (twins.update (fun connection => { connection with isHeld := false })
    (fun _ => rfl) fun _ => rfl) conduct

section Dropping

variable {index : Nat} (decides : Decides conduct answer)
  (twins : Twins separation id id' first second)

include decides twins

theorem Twins.dropStatement
    (attested : Attested first (first.dropStatement conduct ⟨id, index⟩))
    (attested' : Attested second (second.dropStatement conduct ⟨id', index⟩)) :
    Twins separation id id' (first.dropStatement conduct ⟨id, index⟩)
      (second.dropStatement conduct ⟨id', index⟩) := by
  unfold Session.dropStatement at attested attested' ⊢
  rw [twins.toResemble.isFinalized] at attested ⊢
  split
  · exact twins
  · rename_i isLive
    rw [if_neg isLive] at attested attested'
    exact ((twins.setState index .finalized).call decides (.finalize ⟨id, index⟩)
      (.finalize ⟨id', index⟩) rfl rfl rfl (attested.setState _ _) (attested'.setState _ _)).2

theorem Twins.settleStatement
    (attested : Attested first (first.settleStatement conduct ⟨id, index⟩))
    (attested' : Attested second (second.settleStatement conduct ⟨id', index⟩)) :
    Twins separation id id' (first.settleStatement conduct ⟨id, index⟩)
      (second.settleStatement conduct ⟨id', index⟩) := by
  have grows (session : Session library) (id : Nat) :
      session.log <:+ ((Act.settleConnection id).run conduct session).log :=
    Path.log_suffix (decides.path separation.motion rfl rfl session)
  unfold Session.settleStatement at attested attested' ⊢
  rw [twins.toResemble.isStatementReachable] at attested ⊢
  split
  · exact twins
  · rename_i dropped
    rw [if_neg dropped] at attested attested'
    exact (twins.dropStatement decides (attested.mono (grows _ _))
      (attested'.mono (grows _ _))).settleConnection conduct

theorem Twins.releaseStatement
    (attested : Attested first (first.releaseStatement conduct ⟨id, index⟩))
    (attested' : Attested second (second.releaseStatement conduct ⟨id', index⟩)) :
    Twins separation id id' (first.releaseStatement conduct ⟨id, index⟩)
      (second.releaseStatement conduct ⟨id', index⟩) := by
  have released {session after : Session library} (id : StatementId)
      (attested : Attested session after) :
      Attested (session.updateStatement id fun statement => { statement with isHeld := false })
        after :=
    ⟨attested.custody.calm (.of_update rfl rfl (fun _ => rfl) (fun _ => rfl) fun _ => rfl),
      attested.registered⟩
  exact Twins.settleStatement decides (twins.update _ (fun _ => rfl) fun _ => rfl)
    (released _ attested) (released _ attested')

end Dropping

/-! ### Tokens of twins -/

section Tokens

variable (twins : Twins separation id id' first second) (matched : first.TokensMatched)
  (matched' : second.TokensMatched)

include twins matched matched'

theorem Twins.connection_toToken (room : lacksRoom (first.connectionToken id).1 = false)
    (room' : lacksRoom (second.connectionToken id').1 = false) :
    ((∃ token token', (first.connectionToken id).1 = .ok token ∧
        (second.connectionToken id').1 = .ok token') ∨
      ((first.connectionToken id).1 = .error (.aborted Handle.disposedMessage) ∧
        (second.connectionToken id').1 = .error (.aborted Handle.disposedMessage))) ∧
    Twins separation id id' (first.connectionToken id).2 (second.connectionToken id').2 := by
  obtain ⟨told, same⟩ := Handle.Population.toToken_alike matched.connections matched'.connections
    twins.token room room'
  exact ⟨told, ⟨twins.handle, same, twins.statementToken, twins.asked, twins.view⟩, twins.authorizer⟩

theorem Twins.statement_toToken (index : Nat)
    (room : lacksRoom (first.statementToken ⟨id, index⟩).1 = false)
    (room' : lacksRoom (second.statementToken ⟨id', index⟩).1 = false) :
    ((∃ token token', (first.statementToken ⟨id, index⟩).1 = .ok token ∧
        (second.statementToken ⟨id', index⟩).1 = .ok token') ∨
      ((first.statementToken ⟨id, index⟩).1 = .error (.aborted Handle.disposedMessage) ∧
        (second.statementToken ⟨id', index⟩).1 = .error (.aborted Handle.disposedMessage))) ∧
    Twins separation id id' (first.statementToken ⟨id, index⟩).2
      (second.statementToken ⟨id', index⟩).2 := by
  obtain ⟨told, same⟩ := Handle.Population.toToken_alike matched.statements matched'.statements
    (twins.toResemble.statementToken index) room room'
  refine ⟨told, ⟨twins.handle, twins.token, fun other => ?_, twins.asked, twins.view⟩,
    twins.authorizer⟩
  by_cases isOther : other = index
  · exact isOther ▸ same
  · have apart (id : Nat) : (⟨id, other⟩ : StatementId) ≠ ⟨id, index⟩ :=
      fun same => isOther (congrArg StatementId.index same)
    rw [Session.statementToken, Session.statementToken]
    exact (congrArg _ (Handle.Population.reference_toToken_of_ne _ (apart id))).trans
      ((twins.toResemble.statementToken other).trans
        (congrArg _ (Handle.Population.reference_toToken_of_ne _ (apart id'))).symm)

end Tokens

end Session

end SqliteBridge
