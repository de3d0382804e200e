import SqliteBridge.Proofs.Boundary.Requests
import SqliteBridge.Proofs.Session.Misuse
import SqliteBridge.Proofs.Session.Usable

/-! What a call does to the tokens. A call that opens or prepares gives a new handle a token
or leaves the tokens as they were, one that closes or finalizes gives a token up, and any
other call leaves them. All calls keep the tokens those of usable handles. -/
namespace SqliteBridge.Boundary

open Handle (Token Population)
open Handle.Population (Adopted)
open Native (Library)
open Session (Reply SameTokens)

variable {library : Library} {conduct : Conduct library} {session : Session library} {call : Call}
  {failure : Failure}

/-! ### Handles on their way out -/

section Sending

variable {id : Nat} {statement : StatementId}

theorem send_connection (usable : session.Usable) (isOpen : session.isClosed id = false)
    (unset : session.connectionTokens.reference id = .unset) :
    (send conduct session (.connection id)).2.Usable ∧
    ((∃ failure, (send conduct session (.connection id)).1 = .error failure ∧
        SameTokens session (send conduct session (.connection id)).2) ∨
      ∃ token, (send conduct session (.connection id)).1 = .ok (.long token.raw) ∧
        session.connectionTokens.toToken id =
          (.ok token, (send conduct session (.connection id)).2.connectionTokens) ∧
        Adopted session.connectionTokens id token
          (send conduct session (.connection id)).2.connectionTokens ∧
        (send conduct session (.connection id)).2.statementTokens = session.statementTokens) := by
  rcases Population.toToken_cases usable.connections.matched id with
    ⟨token, live, _⟩ | ⟨disposed, _⟩ | ⟨_, refused⟩ | ⟨_, token, population, adopted, made⟩
  · rw [unset] at live
    contradiction
  · rw [unset] at disposed
    contradiction
  · simp only [send, Session.connectionToken, refused]
    obtain ⟨released, same⟩ := usable.releaseConnection conduct id
    exact ⟨released, .inl ⟨_, rfl, same⟩⟩
  · have adopting : Session.Usable { session with connectionTokens := population } :=
      ⟨usable.unattended, usable.connections.adopted isOpen
        (Session.lt_length_of_isClosed isOpen) adopted, usable.statements⟩
    obtain ⟨released, same⟩ := adopting.releaseConnection conduct id
    simp only [send, Session.connectionToken, made]
    exact ⟨released, .inr ⟨token, rfl, congrArg (Prod.mk _) same.connections.symm,
      same.connections.symm ▸ adopted, same.statements⟩⟩

theorem send_statement (usable : session.Usable) (isLive : session.isFinalized statement = false)
    (unset : session.statementTokens.reference statement = .unset) :
    (send conduct session (.statement statement)).2.Usable ∧
    ((∃ failure, (send conduct session (.statement statement)).1 = .error failure ∧
        SameTokens session (send conduct session (.statement statement)).2) ∨
      ∃ token, (send conduct session (.statement statement)).1 = .ok (.long token.raw) ∧
        Adopted session.statementTokens statement token
          (send conduct session (.statement statement)).2.statementTokens ∧
        (send conduct session (.statement statement)).2.connectionTokens =
          session.connectionTokens) := by
  rcases Population.toToken_cases usable.statements.matched statement with
    ⟨token, live, _⟩ | ⟨disposed, _⟩ | ⟨_, refused⟩ | ⟨_, token, population, adopted, made⟩
  · rw [unset] at live
    contradiction
  · rw [unset] at disposed
    contradiction
  · simp only [send, Session.statementToken, refused]
    obtain ⟨released, same⟩ := usable.releaseStatement conduct statement
    exact ⟨released, .inl ⟨_, rfl, same⟩⟩
  · have adopting : Session.Usable { session with statementTokens := population } :=
      ⟨usable.unattended, usable.connections, usable.statements.adopted isLive
        (Session.isSome_state?_of_isFinalized isLive) adopted⟩
    obtain ⟨released, same⟩ := adopting.releaseStatement conduct statement
    simp only [send, Session.statementToken, made]
    exact ⟨released, .inr ⟨token, rfl, same.statements.symm ▸ adopted, same.connections⟩⟩

end Sending

/-- A reply that is no handle. -/
def IsPlain : Reply → Prop
  | .connection _ => False
  | .statement _ => False
  | _ => True

theorem send_plain {reply : Reply} (plain : IsPlain reply) :
    (send conduct session reply).2 = session := by
  cases reply with
  | connection _ | statement _ => contradiction
  | _ => rfl

/-- A handle that gets no token is no misuse. -/
theorem send_ne_misuse {reply : Reply} {message : String} (matched : session.TokensMatched) :
    (send conduct session reply).1 ≠ .error (.refused (.misuse message)) := by
  cases reply with
  | connection id =>
    rcases Population.toToken_cases matched.connections id with
      ⟨token, _, made⟩ | ⟨_, made⟩ | ⟨_, made⟩ | ⟨_, token, _, _, made⟩ <;>
    simp only [send, Session.connectionToken, made] <;> exact nofun
  | statement id =>
    rcases Population.toToken_cases matched.statements id with
      ⟨token, _, made⟩ | ⟨_, made⟩ | ⟨_, made⟩ | ⟨_, token, _, _, made⟩ <;>
    simp only [send, Session.statementToken, made] <;> exact nofun
  | _ => exact nofun

theorem letGo_usable (usable : session.Usable) (conduct : Conduct library)
    (target : Session.Target) :
    (letGo conduct session target).Usable ∧ SameTokens session (letGo conduct session target) := by
  cases target with
  | nothing => exact ⟨usable, rfl, rfl⟩
  | connection id => exact usable.settleConnection conduct id
  | statement id => exact usable.settleStatement conduct id

/-- A request that neither makes nor ends a handle, and sets no authorizer. -/
def IsPlainRequest : Session.Request → Prop
  | .openWith _ => False
  | .close _ => False
  | .prepare _ _ => False
  | .setAuthorizer _ _ => False
  | .finalize _ => False
  | _ => True

theorem perform_plain (usable : session.Usable) (conduct : Conduct library)
    {request : Session.Request} (plain : IsPlainRequest request) :
    SameTokens session (session.perform conduct request).2 ∧
      ∀ reply, (session.perform conduct request).1 = .ok reply → IsPlain reply := by
  cases request with
  | openWith | close | prepare | setAuthorizer | finalize => contradiction
  | exec id sql =>
    refine ⟨(Session.quiet_exec usable.unattended conduct id sql).sameTokens, fun _ replied => ?_⟩
    obtain ⟨_, _, rfl⟩ := Session.replying_eq_ok replied
    exact trivial
  | step id =>
    refine ⟨?_, fun _ replied => ?_⟩
    · by_cases guard : session.CanRun id
      · obtain ⟨code, quiet⟩ := Session.step_unattended usable.unattended conduct guard
        exact ⟨quiet.connectionTokens, quiet.statementTokens⟩
      · obtain ⟨message, refused⟩ := Session.step_of_not_canRun conduct guard
        simp only [Session.perform, Session.replying, refused]
        exact ⟨rfl, rfl⟩
    · obtain ⟨_, _, rfl⟩ := Session.replying_eq_ok replied
      exact trivial
  | reset id =>
    refine ⟨?_, fun _ replied => ?_⟩
    · by_cases guard : session.CanRun id
      · have quiet := Session.reset_unattended usable.unattended conduct guard
        exact ⟨quiet.connectionTokens, quiet.statementTokens⟩
      · obtain ⟨message, refused⟩ := Session.onStatement_of_not_canRun guard
        simp only [Session.perform, Session.replying, Session.reset, refused]
        exact ⟨rfl, rfl⟩
    · obtain ⟨_, _, rfl⟩ := Session.replying_eq_ok replied
      exact trivial
  | describe | version =>
    refine ⟨⟨rfl, rfl⟩, fun _ replied => ?_⟩
    cases replied
    exact trivial
  | _ =>
    refine ⟨(Session.quiet_perform rfl conduct session).sameTokens, fun _ replied => ?_⟩
    obtain ⟨_, _, rfl⟩ := Session.replying_eq_ok replied
    exact trivial

/-! ### One call -/

namespace Call

/-- A call that neither makes nor ends a handle. -/
def IsPlain : Call → Prop
  | openConnection _ => False
  | close _ => False
  | prepareStatement _ _ => False
  | finalize _ => False
  | _ => True

/-- No call sets an authorizer. -/
theorem request_ne_setAuthorizer {request : Session.Request}
    (asked : call.request session = .ok request) (id : Nat) (callback? : Option Callback) :
    request ≠ .setAuthorizer id callback? := by
  cases call with
  | openConnection _ =>
    obtain ⟨_, _, made⟩ := bind_eq_ok asked
    cases made
    exact nofun
  | prepareStatement _ _ | exec _ _ | bindText _ _ _ | bindBlob _ _ _ =>
    obtain ⟨_, _, later⟩ := bind_eq_ok asked
    obtain ⟨_, _, made⟩ := bind_eq_ok later
    cases made
    exact nofun
  | errorString _ | version =>
    cases asked
    exact nofun
  | _ =>
    obtain ⟨_, _, made⟩ := bind_eq_ok asked
    cases made
    exact nofun

theorem request_isPlain {request : Session.Request} (plain : call.IsPlain)
    (asked : call.request session = .ok request) : Boundary.IsPlainRequest request := by
  cases call with
  | openConnection _ | close _ | prepareStatement _ _ | finalize _ => contradiction
  | exec _ _ | bindText _ _ _ | bindBlob _ _ _ =>
    obtain ⟨_, _, later⟩ := bind_eq_ok asked
    obtain ⟨_, _, made⟩ := bind_eq_ok later
    cases made
    exact trivial
  | errorString _ | version =>
    cases asked
    exact trivial
  | _ =>
    obtain ⟨_, _, made⟩ := bind_eq_ok asked
    cases made
    exact trivial

/-- What a call leaves that does not reply with a handle. -/
theorem body_snd (conduct : Conduct library) {request : Session.Request}
    (asked : call.request session = .ok request)
    (plain : ∀ reply, (session.perform conduct request).1 = .ok reply → Boundary.IsPlain reply) :
    (call.body conduct session).2 =
      letGo conduct (session.perform conduct request).2 request.target := by
  cases replied : (session.perform conduct request).1 with
  | error error => rw [body_failed conduct asked replied]
  | ok reply => rw [body_replied conduct asked replied, send_plain (plain reply replied)]

theorem body_plain (usable : session.Usable) (conduct : Conduct library) (plain : call.IsPlain) :
    (call.body conduct session).2.Usable ∧ SameTokens session (call.body conduct session).2 := by
  cases asked : call.request session with
  | error failure =>
    rw [body_refused conduct asked]
    exact ⟨usable, rfl, rfl⟩
  | ok request =>
    have performed := usable.perform conduct (request_ne_setAuthorizer asked)
    obtain ⟨same, replies⟩ := perform_plain usable conduct (request_isPlain plain asked)
    obtain ⟨settled, same'⟩ := letGo_usable performed conduct request.target
    rw [body_snd conduct asked replies]
    exact ⟨settled, same.trans same'⟩

theorem body_openConnection (usable : session.Usable) (conduct : Conduct library)
    (path? : Option String) :
    ((openConnection path?).body conduct session).2.Usable ∧
    ((∃ failure, ((openConnection path?).body conduct session).1 = .error failure ∧
        SameTokens session ((openConnection path?).body conduct session).2) ∨
      ∃ token, ((openConnection path?).body conduct session).1 = .ok (.long token.raw) ∧
        session.connectionTokens.toToken session.connections.length =
          (.ok token, ((openConnection path?).body conduct session).2.connectionTokens) ∧
        Adopted session.connectionTokens session.connections.length token
          ((openConnection path?).body conduct session).2.connectionTokens ∧
        ((openConnection path?).body conduct session).2.statementTokens =
          session.statementTokens) := by
  cases path? with
  | none => exact ⟨usable, .inl ⟨_, rfl, rfl, rfl⟩⟩
  | some path =>
    have asked : (openConnection (some path)).request session = .ok (.openWith (.file path)) := rfl
    have performed := usable.openWith conduct (.file path)
    rcases Session.openWith_quiet conduct session (.file path) with
      ⟨error, failed, quiet⟩ | ⟨opened, quiet⟩
    · have failed : (session.perform conduct (.openWith (.file path))).1 = .error error :=
        congrArg (Except.map _) failed
      rw [body_failed conduct asked failed]
      exact ⟨performed, .inl ⟨_, rfl, quiet.sameTokens⟩⟩
    · have replied : (session.perform conduct (.openWith (.file path))).1 =
          .ok (.connection session.connections.length) := congrArg (Except.map _) opened
      have isOpen : (session.openWith conduct (.file path)).2.isClosed session.connections.length =
          false := by
        rw [quiet.isClosed, Session.isClosed_eq_false_iff]
        exact ⟨_, List.getElem?_concat_length, rfl⟩
      have unset : (session.openWith conduct (.file path)).2.connectionTokens.reference
          session.connections.length = .unset := by
        rw [quiet.connectionTokens]
        exact usable.connections.unset _ (Nat.lt_irrefl _)
      obtain ⟨sent, ended⟩ := send_connection performed isOpen unset
      rw [body_replied conduct asked replied]
      refine ⟨sent, ?_⟩
      rcases ended with ⟨failure, failed, same⟩ | ⟨token, made, taken, adopted, same⟩
      · exact .inl ⟨failure, failed, same.connections.trans quiet.connectionTokens,
          same.statements.trans quiet.statementTokens⟩
      · rw [quiet.connectionTokens] at taken adopted
        exact .inr ⟨token, made, taken, adopted, same.trans quiet.statementTokens⟩

theorem body_prepareStatement (usable : session.Usable) (conduct : Conduct library) (raw : Int64)
    (sql? : Option String) :
    ((prepareStatement raw sql?).body conduct session).2.Usable ∧
    ((∃ failure, ((prepareStatement raw sql?).body conduct session).1 = .error failure ∧
        SameTokens session ((prepareStatement raw sql?).body conduct session).2) ∨
      ∃ id connection token, target session.connectionTokens.table raw = .ok id ∧
        session.connection? id = some connection ∧
        ((prepareStatement raw sql?).body conduct session).1 = .ok (.long token.raw) ∧
        Adopted session.statementTokens ⟨id, connection.statements.length⟩ token
          ((prepareStatement raw sql?).body conduct session).2.statementTokens ∧
        ((prepareStatement raw sql?).body conduct session).2.connectionTokens =
          session.connectionTokens) := by
  cases asked : (prepareStatement raw sql?).request session with
  | error failure =>
    rw [body_refused conduct asked]
    exact ⟨usable, .inl ⟨_, rfl, rfl, rfl⟩⟩
  | ok request =>
    obtain ⟨id, target, later⟩ := bind_eq_ok asked
    obtain ⟨sql, _, made⟩ := bind_eq_ok later
    cases made
    have performed := usable.prepare conduct id sql
    rcases Session.prepare_unattended usable.unattended conduct id sql with
      ⟨error, failed, quiet⟩ | ⟨connection, found, -, prepared, quiet⟩
    · have failed : (session.perform conduct (.prepare id sql)).1 = .error error :=
        congrArg (Except.map _) failed
      obtain ⟨settled, same⟩ := letGo_usable performed conduct (.connection id)
      rw [body_failed conduct asked failed]
      exact ⟨settled, .inl ⟨_, rfl, quiet.sameTokens.trans same⟩⟩
    · have replied : (session.perform conduct (.prepare id sql)).1 =
          .ok (.statement ⟨id, connection.statements.length⟩) := congrArg (Except.map _) prepared
      have state? : (session.prepare conduct id sql).2.state? ⟨id, connection.statements.length⟩ =
          some .prepared := by
        rw [quiet.state?, Session.state?_addStatement session found rfl, if_pos rfl]
      have isLive := Session.isFinalized_eq_false_iff_state?.mpr ⟨_, state?, by decide⟩
      have unset : (session.prepare conduct id sql).2.statementTokens.reference
          ⟨id, connection.statements.length⟩ = .unset := by
        rw [quiet.statementTokens]
        refine usable.statements.unset _ ?_
        simp [Session.state?, Session.statement?, found]
      obtain ⟨sent, ended⟩ := send_statement performed isLive unset
      obtain ⟨settled, same'⟩ := letGo_usable sent conduct (.connection id)
      rw [body_replied conduct asked replied]
      refine ⟨settled, ?_⟩
      have kept : SameTokens session (session.prepare conduct id sql).2 :=
        ⟨quiet.connectionTokens, quiet.statementTokens⟩
      rcases ended with ⟨failure, failed, same⟩ | ⟨token, made, adopted, same⟩
      · exact .inl ⟨failure, failed, (kept.trans same).trans same'⟩
      · refine .inr ⟨id, connection, token, target, found, made, ?_,
          (same'.connections.trans same).trans quiet.connectionTokens⟩
        rw [quiet.statementTokens] at adopted
        exact same'.statements.symm ▸ adopted

theorem body_close (usable : session.Usable) (conduct : Conduct library) (raw : Int64) :
    ((close raw).body conduct session).2.Usable ∧
    ((∃ failure, target session.connectionTokens.table raw = .error failure ∧
        ((close raw).body conduct session).2 = session) ∨
      ∃ id, target session.connectionTokens.table raw = .ok id ∧
        ((close raw).body conduct session).2.connectionTokens =
          session.connectionTokens.disposeToken id ∧
        ((close raw).body conduct session).2.statementTokens = session.statementTokens) := by
  cases asked : (close raw).request session with
  | error failure =>
    rw [body_refused conduct asked]
    rcases bind_eq_error asked with unknown | ⟨_, _, made⟩
    · exact ⟨usable, .inl ⟨failure, unknown, rfl⟩⟩
    · contradiction
  | ok request =>
    obtain ⟨id, found, made⟩ := bind_eq_ok asked
    cases made
    have performed := usable.close conduct id
    have isOpen := usable.connections.of_get?
      ((target_eq_ok_iff usable.connections.matched.consistent).mp found)
    have quiet := (Session.close_unattended usable.unattended conduct isOpen).2
    obtain ⟨settled, same⟩ := letGo_usable performed conduct (.connection id)
    have ended : ((close raw).body conduct session).2 =
        letGo conduct (session.close conduct id).2 (.connection id) :=
      body_snd conduct asked fun _ replied => by
        obtain ⟨_, _, rfl⟩ := Session.replying_eq_ok replied
        exact trivial
    rw [ended]
    exact ⟨settled, .inr ⟨id, found, same.connections.trans quiet.connectionTokens,
      same.statements.trans quiet.statementTokens⟩⟩

theorem body_finalize (usable : session.Usable) (conduct : Conduct library) (raw : Int64) :
    ((finalize raw).body conduct session).2.Usable ∧
    ((∃ failure, target session.statementTokens.table raw = .error failure ∧
        ((finalize raw).body conduct session).2 = session) ∨
      ∃ id, target session.statementTokens.table raw = .ok id ∧
        ((finalize raw).body conduct session).2.statementTokens =
          session.statementTokens.disposeToken id ∧
        ((finalize raw).body conduct session).2.connectionTokens = session.connectionTokens) := by
  cases asked : (finalize raw).request session with
  | error failure =>
    rw [body_refused conduct asked]
    rcases bind_eq_error asked with unknown | ⟨_, _, made⟩
    · exact ⟨usable, .inl ⟨failure, unknown, rfl⟩⟩
    · contradiction
  | ok request =>
    obtain ⟨id, found, made⟩ := bind_eq_ok asked
    cases made
    have performed := usable.finalize conduct id
    have isLive := usable.statements.of_get?
      ((target_eq_ok_iff usable.statements.matched.consistent).mp found)
    have quiet := Session.finalize_unattended usable.unattended conduct isLive
    obtain ⟨settled, same⟩ := letGo_usable performed conduct (.statement id)
    have ended : ((finalize raw).body conduct session).2 =
        letGo conduct (session.finalize conduct id).2 (.statement id) :=
      body_snd conduct asked fun _ replied => by
        obtain ⟨_, _, rfl⟩ := Session.replying_eq_ok replied
        exact trivial
    rw [ended]
    exact ⟨settled, .inr ⟨id, found, same.statements.trans quiet.statementTokens,
      same.connections.trans quiet.connectionTokens⟩⟩

end Call

end SqliteBridge.Boundary
