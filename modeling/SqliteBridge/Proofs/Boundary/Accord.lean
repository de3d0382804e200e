import SqliteBridge.Proofs.Boundary.Callers

/-! The same call about twins, by the tokens that they have in their sessions. It returns the same,
but for tokens, and leaves twins. -/
namespace SqliteBridge.Boundary

open Handle (Token)
open Native (Library)
open Session (Act Advance Attested CallsRegistered Decides Healthy Reply Request SameReply
  Throughout Twins Untouched)

variable {library : Library} {separation : Separation library} {conduct : Conduct library}
  {answer : Callback → List (Option Callback × AuthorizationRequest) → Answer}
  {first second : Session library} {id id' : Nat} {call call' : Call} {request : Request}

theorem target_withConnection (request : Request) (id : Nat) :
    (request.withConnection id).target =
      match request.target with
      | .nothing => .nothing
      | .connection _ => .connection id
      | .statement statement => .statement ⟨id, statement.index⟩ := by
  cases request <;> rfl

theorem connection?_withConnection (about : request.target ≠ .nothing) (id : Nat) :
    (Act.perform (request.withConnection id)).connection? = some id := by
  rw [Act.connection?, target_withConnection]
  cases target : request.target with
  | nothing => exact absurd target about
  | connection | statement => rfl

theorem lacksRoom_map {α β : Type} (outcome : Except Failure α) (f : α → β) :
    lacksRoom (outcome.map f) = lacksRoom outcome := by
  cases outcome with
  | ok => rfl
  | error failure =>
    cases failure with
    | aborted => rfl
    | refused error => cases error <;> rfl

/-- What comes of a call about twins: the same, and nothing for the books, or a token for each. -/
def Matching (id id' : Nat) (one other : Except Failure NativeValue × Books) : Prop :=
  (∃ outcome, one = (outcome, .empty) ∧ other = (outcome, .empty) ∧
    ∀ message, outcome = .error (.aborted message) → message = Handle.disposedMessage) ∨
  ∃ token token' index, one = (.ok (.long token.raw), ⟨[], [], [(token, ⟨id, index⟩)]⟩) ∧
    other = (.ok (.long token'.raw), ⟨[], [], [(token', ⟨id', index⟩)]⟩)

/-- What is asked for is done before the handles are let go. -/
theorem body_log_suffix (separation : Separation library) (decides : Decides conduct answer)
    {session : Session library} (matched : session.TokensMatched)
    (isOld : id < session.connections.length) (asked : call.request session = .ok request)
    (about : (Act.perform request).connection? = some id) :
    (session.perform conduct request).2.log <:+ (call.body conduct session).2.log := by
  have performed : Advance separation id [] [] session (session.perform conduct request).2 :=
    .act decides (.perform request) about rfl isOld
  have isOld := Nat.lt_of_lt_of_le isOld performed.length_le
  cases replied : (session.perform conduct request).1 with
  | error error =>
    rw [Call.body_failed conduct asked replied]
    exact (letGo_advance separation decides isOld about).log_suffix
  | ok reply =>
    have sent := send_advance separation decides isOld 0 (performed.matched matched)
      (perform_reply_withConnection about replied)
    rw [Call.body_replied conduct asked replied]
    exact sent.log_suffix.trans (letGo_advance separation decides
      (Nat.lt_of_lt_of_le isOld sent.length_le) about).log_suffix

section Calling

variable (decides : Decides conduct answer) (twins : Twins separation id id' first second)
  (healthy : first.Healthy) (healthy' : second.Healthy)

include decides twins healthy healthy'

theorem letGo_alike
    (registered : Throughout CallsRegistered
      (letGo conduct first (request.withConnection id).target).log)
    (registered' : Throughout CallsRegistered
      (letGo conduct second (request.withConnection id').target).log) :
    Twins separation id id' (letGo conduct first (request.withConnection id).target)
      (letGo conduct second (request.withConnection id').target) := by
  rw [target_withConnection] at registered registered' ⊢
  rw [target_withConnection]
  cases target : request.target with
  | nothing => exact twins
  | connection => exact twins.settleConnection conduct
  | statement statement =>
    rw [target] at registered registered'
    exact twins.settleStatement decides ⟨healthy.custody, registered⟩ ⟨healthy'.custody, registered'⟩

theorem send_alike (caller : Nat) {reply : Reply} (isNoConnection : ∀ id, reply ≠ .connection id)
    (registered : Throughout CallsRegistered (send conduct first (reply.withConnection id)).2.log)
    (registered' : Throughout CallsRegistered (send conduct second (reply.withConnection id')).2.log)
    (room : lacksRoom (send conduct first (reply.withConnection id)).1 = false)
    (room' : lacksRoom (send conduct second (reply.withConnection id')).1 = false) :
    Matching id id'
        ((send conduct first (reply.withConnection id)).1, .ofCall caller
          (some (reply.withConnection id)) (send conduct first (reply.withConnection id)).1)
        ((send conduct second (reply.withConnection id')).1, .ofCall caller
          (some (reply.withConnection id')) (send conduct second (reply.withConnection id')).1) ∧
      Twins separation id id' (send conduct first (reply.withConnection id)).2
        (send conduct second (reply.withConnection id')).2 := by
  cases reply with
  | connection id => exact absurd rfl (isNoConnection id)
  | statement made =>
    obtain ⟨_, index⟩ := made
    simp only [Reply.withConnection, send, lacksRoom_map] at registered registered' room room' ⊢
    obtain ⟨told, tokened⟩ :=
      twins.statement_toToken healthy.matched healthy'.matched index room room'
    have custody {session : Session library} (healthy : session.Healthy) (id : StatementId) :
        (session.statementToken id).2.Custody := healthy.custody.calm (.of_eq rfl rfl fun _ => rfl)
    refine ⟨?_, tokened.releaseStatement decides ⟨custody healthy _, registered⟩
      ⟨custody healthy' _, registered'⟩⟩
    obtain ⟨token, token', made, made'⟩ | ⟨refused, refused'⟩ := told
    · rw [made, made']
      exact .inr ⟨token, token', index, rfl, rfl⟩
    · rw [refused, refused']
      refine .inl ⟨_, rfl, rfl, ?_⟩
      rintro _ ⟨⟩
      rfl
  | _ => exact ⟨.inl ⟨_, rfl, rfl, fun _ aborted => by cases aborted⟩, twins⟩

theorem body_alike (caller : Nat) (isOld : id < first.connections.length)
    (isOld' : id' < second.connections.length) (about : request.target ≠ .nothing)
    (asked : call.request first = .ok (request.withConnection id))
    (asked' : call'.request second = .ok (request.withConnection id'))
    (registered : Throughout CallsRegistered (call.body conduct first).2.log)
    (registered' : Throughout CallsRegistered (call'.body conduct second).2.log)
    (room : lacksRoom (call.body conduct first).1 = false)
    (room' : lacksRoom (call'.body conduct second).1 = false) :
    Matching id id'
        ((call.body conduct first).1, .ofCall caller (call.reply? conduct first)
          (call.body conduct first).1)
        ((call'.body conduct second).1, .ofCall caller (call'.reply? conduct second)
          (call'.body conduct second).1) ∧
      Twins separation id id' (call.body conduct first).2 (call'.body conduct second).2 := by
  have about₁ := connection?_withConnection about id
  have about₂ := connection?_withConnection about id'
  have performed : Advance separation id [] [] first _ :=
    .act decides (.perform (request.withConnection id)) about₁ rfl isOld
  have performed' : Advance separation id' [] [] second _ :=
    .act decides (.perform (request.withConnection id')) about₂ rfl isOld'
  have early := registered.suffix
    (body_log_suffix separation decides healthy.matched isOld asked about₁)
  have early' := registered'.suffix
    (body_log_suffix separation decides healthy'.matched isOld' asked' about₂)
  obtain ⟨⟨reply, same, same'⟩, ran⟩ :=
    twins.perform decides about ⟨healthy.custody, early⟩ ⟨healthy'.custody, early'⟩
  have healthy := performed.healthy healthy early
  have healthy' := performed'.healthy healthy' early'
  have isOld := Nat.lt_of_lt_of_le isOld performed.length_le
  have isOld' := Nat.lt_of_lt_of_le isOld' performed'.length_le
  cases reply with
  | error error =>
    rw [Call.body_failed conduct asked same] at registered ⊢
    rw [Call.body_failed conduct asked' same'] at registered' ⊢
    refine ⟨.inl ⟨.error (.refused error), ?_, ?_, nofun⟩,
      letGo_alike decides ran healthy healthy' registered registered'⟩
    · simp only [Call.reply?, asked, same, Except.map, Except.toOption, Books.ofCall]
    · simp only [Call.reply?, asked', same', Except.map, Except.toOption, Books.ofCall]
  | ok reply =>
    have isNoConnection (other : Nat) : reply ≠ .connection other := by
      rintro rfl
      obtain plain | ⟨config, _, isOpen, -⟩ | ⟨_, _, _, -, isStatement⟩ := perform_reply same
      · cases plain
      · have target := target_withConnection request id
        rw [isOpen] at about₁
        cases about₁
      · cases isStatement
    have own (id : Nat) : (reply.withConnection id).withConnection id = reply.withConnection id := by
      cases reply <;> rfl
    have sent := send_advance separation decides isOld caller healthy.matched (own id)
    have sent' := send_advance separation decides isOld' caller healthy'.matched (own id')
    rw [Call.body_replied conduct asked same] at registered room ⊢
    rw [Call.body_replied conduct asked' same'] at registered' room' ⊢
    have middle := registered.suffix (letGo_advance separation decides
      (Nat.lt_of_lt_of_le isOld sent.length_le) about₁).log_suffix
    have middle' := registered'.suffix (letGo_advance separation decides
      (Nat.lt_of_lt_of_le isOld' sent'.length_le) about₂).log_suffix
    obtain ⟨matching, passed⟩ := send_alike decides ran healthy healthy' caller isNoConnection middle
      middle' room room'
    refine ⟨?_, letGo_alike decides passed (sent.healthy healthy middle)
      (sent'.healthy healthy' middle') registered registered'⟩
    simpa only [Call.reply?, asked, asked', same, same', Except.map, Except.toOption] using matching

end Calling

/-! ### Requests by token -/

namespace Call

/-- What a call asks for, of no matter which connection. -/
def template (index : Nat) : Call → Except Error Request
  | openConnection path => (requiredText path).map fun path => .openWith (.file path)
  | close _ => .ok (.close 0)
  | prepareStatement _ sql => (requiredText sql).map (.prepare 0)
  | step _ => .ok (.step ⟨0, index⟩)
  | reset _ => .ok (.reset ⟨0, index⟩)
  | finalize _ => .ok (.finalize ⟨0, index⟩)
  | clearBindings _ => .ok (.clearBindings ⟨0, index⟩)
  | parameterCount _ => .ok (.parameterCount ⟨0, index⟩)
  | bindInt _ number n => .ok (.bind ⟨0, index⟩ number (.int n))
  | bindLong _ number n => .ok (.bind ⟨0, index⟩ number (.long n))
  | bindDouble _ number x => .ok (.bind ⟨0, index⟩ number (.double x))
  | bindText _ number s => (requiredText s).map fun s => .bind ⟨0, index⟩ number (.text s)
  | bindBlob _ number bytes =>
    (requiredBytes bytes).map fun bytes => .bind ⟨0, index⟩ number (.blob bytes)
  | bindNull _ number => .ok (.bind ⟨0, index⟩ number .null)
  | columnCount _ => .ok (.columnCount ⟨0, index⟩)
  | columnName _ column => .ok (.columnName ⟨0, index⟩ column)
  | columnType _ column => .ok (.column ⟨0, index⟩ .columnType column)
  | columnIsNull _ column => .ok (.column ⟨0, index⟩ .isNull column)
  | columnInt _ column => .ok (.column ⟨0, index⟩ .int column)
  | columnLong _ column => .ok (.column ⟨0, index⟩ .long column)
  | columnDouble _ column => .ok (.column ⟨0, index⟩ .double column)
  | columnText _ column => .ok (.column ⟨0, index⟩ .text column)
  | columnBlob _ column => .ok (.column ⟨0, index⟩ .blob column)
  | errorMessage _ => .ok (.errorMessage 0)
  | errorCode _ => .ok (.errorCode 0)
  | errorString code => .ok (.describe ⟨code⟩)
  | exec _ sql => (requiredText sql).map (.exec 0)
  | changes _ => .ok (.changes 0)
  | lastInsertedId _ => .ok (.lastInsertedId 0)
  | version => .ok .version

variable {session : Session library} {raw : Int64} {index : Nat} {failure : Failure}

theorem target_template (takes : call.token?.isSome = true)
    (asked : call.template index = .ok request) : request.target ≠ .nothing := by
  cases call with
  | openConnection | errorString | version => cases takes
  | prepareStatement _ s? | exec _ s? | bindText _ _ s? =>
    cases s? with
    | none => cases asked
    | some => cases asked; exact nofun
  | bindBlob _ _ bytes? =>
    cases bytes? with
    | none => cases asked
    | some => cases asked; exact nofun
  | _ => cases asked; exact nofun

/-- A call without a token asks for the same in every session. -/
theorem request_of_token?_eq_none (untokened : call.token? = none) (session : Session library) :
    call.request session = argument (call.template 0) := by
  cases call with
  | openConnection path? => cases path? <;> rfl
  | errorString | version => rfl
  | _ => cases untokened

theorem request_of_connection (index : Nat) (takes : call.connectionToken?.isSome = true)
    (found : target session.connectionTokens.table raw = .ok id) :
    (call.withToken raw).request session =
      argument ((call.template index).map (Request.withConnection id)) := by
  cases call with
  | prepareStatement _ s? | exec _ s? =>
    cases s? <;> simp only [withToken, Call.request, connection, found] <;> rfl
  | close | errorMessage | errorCode | changes | lastInsertedId =>
    simp only [withToken, Call.request, connection, found]
    rfl
  | _ => cases takes

theorem request_of_statement (takes : call.statementToken?.isSome = true)
    (found : target session.statementTokens.table raw = .ok ⟨id, index⟩) :
    (call.withToken raw).request session =
      argument ((call.template index).map (Request.withConnection id)) := by
  cases call with
  | openConnection | close | prepareStatement | errorMessage | errorCode | errorString | exec
  | changes | lastInsertedId | version => cases takes
  | bindText _ _ s? =>
    cases s? <;> simp only [withToken, Call.request, statement, found] <;> rfl
  | bindBlob _ _ bytes? =>
    cases bytes? <;> simp only [withToken, Call.request, statement, found] <;> rfl
  | _ =>
    simp only [withToken, Call.request, statement, found]
    rfl

/-- The token is read first. -/
theorem request_of_no_connection (takes : call.connectionToken?.isSome = true)
    (lost : target session.connectionTokens.table raw = .error failure) :
    (call.withToken raw).request session = .error failure := by
  cases call with
  | prepareStatement | exec | close | errorMessage | errorCode | changes | lastInsertedId =>
    simp only [withToken, Call.request, connection, lost]
    rfl
  | _ => cases takes

theorem request_of_no_statement (takes : call.statementToken?.isSome = true)
    (lost : target session.statementTokens.table raw = .error failure) :
    (call.withToken raw).request session = .error failure := by
  cases call with
  | openConnection | close | prepareStatement | errorMessage | errorCode | errorString | exec
  | changes | lastInsertedId | version => cases takes
  | _ =>
    simp only [withToken, Call.request, statement, lost]
    rfl

end Call

end SqliteBridge.Boundary
