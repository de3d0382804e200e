import SqliteBridge.Proofs.Boundary.Bodies
import SqliteBridge.Proofs.Session.Advances

/-! Callers of one session. Each has connections of its own, which it names by the order in which it
opened them, and their statements, which it names by the order in which they were made. Whose the
connections are and which tokens were issued is on the books. -/
namespace SqliteBridge.Boundary

open Handle (Token)
open Handle.Population (IssuedOnce Lists lists_withCapacity)
open Native (Library)
open Session (About Act Advance CallsRegistered Decides Evolves Healthy Keeps Reply Throughout
  Touched Untouched)

variable {library : Library} {separation : Separation library} {conduct : Conduct library}
  {answer : Callback → List (Option Callback × AuthorizationRequest) → Answer}
  {session : Session library} {caller subject : Nat} {call : Call} {request : Session.Request}

/-! ### Lines -/

namespace Call

/-- The same call with another token. -/
def withToken (raw : Int64) : Call → Call
  | openConnection path => openConnection path
  | close _ => close raw
  | prepareStatement _ sql => prepareStatement raw sql
  | step _ => step raw
  | reset _ => reset raw
  | finalize _ => finalize raw
  | clearBindings _ => clearBindings raw
  | parameterCount _ => parameterCount raw
  | bindInt _ number n => bindInt raw number n
  | bindLong _ number n => bindLong raw number n
  | bindDouble _ number x => bindDouble raw number x
  | bindText _ number s => bindText raw number s
  | bindBlob _ number bytes => bindBlob raw number bytes
  | bindNull _ number => bindNull raw number
  | columnCount _ => columnCount raw
  | columnName _ column => columnName raw column
  | columnType _ column => columnType raw column
  | columnIsNull _ column => columnIsNull raw column
  | columnInt _ column => columnInt raw column
  | columnLong _ column => columnLong raw column
  | columnDouble _ column => columnDouble raw column
  | columnText _ column => columnText raw column
  | columnBlob _ column => columnBlob raw column
  | errorMessage _ => errorMessage raw
  | errorCode _ => errorCode raw
  | errorString code => errorString code
  | exec _ sql => exec raw sql
  | changes _ => changes raw
  | lastInsertedId _ => lastInsertedId raw
  | version => version

/-- The token that the call takes. -/
def token? (call : Call) : Option Int64 := call.connectionToken?.or call.statementToken?

/-- What the request of a call is replied to with. -/
def reply? (conduct : Conduct library) (session : Session library) (call : Call) : Option Reply :=
  match call.request session with
  | .ok request => (session.perform conduct request).1.toOption
  | .error _ => none

end Call

/-- What a caller does: an act, or a native call that takes the token of an object. Connections go
by the caller's own numbers; the token in the call itself is not used. -/
inductive Line where
  | act (act : Act)
  | call (object : StatementId) (call : Call)

/-- What comes of an act. -/
inductive Told where
  | nothing
  | reply (reply : Except Error Reply)
  | token (token : Except Failure Token)

/-- What comes of a line. -/
inductive Exchange where
  /-- The object of the line is not there, or has no token. -/
  | nameless
  | acted (act : Act) (told : Told)
  | called (call : Call) (value : NativeValue) (pending? : Option Exception)

/-! ### What callers can tell -/

/-- A result without the numbers of handles and without the value of a token. -/
def Told.anonymous : Told → Told
  | nothing => nothing
  | reply outcome => reply (outcome.map (Reply.withConnection 0))
  | token outcome => token (outcome.map fun _ => ⟨0⟩)

/-- Whether a call returns a token. -/
def Call.issues : Call → Bool
  | openConnection _ => true
  | prepareStatement _ _ => true
  | _ => false

/-- The failure of a call by a token that was given up. -/
def lostToken (token : Token) : Failure := .aborted s!"{Handle.disposedMessage} ({token.text})"

/-- An exception that names a token that was given up, without its value. -/
def Exception.withoutToken (raw? : Option Int64) (exception : Exception) : Exception :=
  match raw? with
  | none => exception
  | some raw =>
    if exception = .ofFailure (lostToken ⟨raw⟩) then
      .ofFailure (.aborted Handle.disposedMessage)
    else exception

/-- An exchange without the numbers of handles and without the values of tokens. -/
def Exchange.anonymous : Exchange → Exchange
  | nameless => nameless
  | acted act told => acted (act.withConnection 0) told.anonymous
  | called call value pending? =>
    called (call.withToken 0) (if call.issues && pending?.isNone then .long 0 else value)
      (pending?.map (Exception.withoutToken call.token?))

/-- Whether a token was refused because its table is full. -/
def Exchange.lacksRoom : Exchange → Bool
  | acted _ (.token outcome) => SqliteBridge.lacksRoom outcome
  | called _ _ (some exception) => exception.className = Error.exceptionClass (.exhausted 0)
  | _ => false

/-- The act, and what comes of it. -/
def tell (conduct : Conduct library) (session : Session library) : Act → Told × Session library
  | .perform request =>
    let (reply, session) := session.perform conduct request
    (.reply reply, session)
  | .connectionToken id =>
    let (token, session) := session.connectionToken id
    (.token token, session)
  | .statementToken id =>
    let (token, session) := session.statementToken id
    (.token token, session)
  | act => (.nothing, act.run conduct session)

/-! ### Books -/

structure Books where
  /-- Connections with their callers, in the order in which they were opened. -/
  connections : List (Nat × Nat)
  connectionTokens : List (Token × Nat)
  statementTokens : List (Token × StatementId)

namespace Books

def empty : Books := ⟨[], [], []⟩

def add (books added : Books) : Books where
  connections := books.connections ++ added.connections
  connectionTokens := books.connectionTokens ++ added.connectionTokens
  statementTokens := books.statementTokens ++ added.statementTokens

/-- The connections of a caller. -/
def own (books : Books) (caller : Nat) : List Nat :=
  (books.connections.filter fun entry => entry.1 = caller).map Prod.snd

/-- The token that an object got. -/
def issuedTo {α : Type} [DecidableEq α] (issued : List (Token × α)) (object : α) : Option Token :=
  (issued.find? fun entry => entry.2 = object).map Prod.fst

/-- The token of an object that a caller names, of the kind that a call takes. -/
def token? (books : Books) (caller : Nat) (object : StatementId) (call : Call) : Option Token :=
  (books.own caller)[object.connection]?.bind fun id =>
    if call.connectionToken?.isSome then issuedTo books.connectionTokens id
    else issuedTo books.statementTokens ⟨id, object.index⟩

/-- The entries for an act. -/
def ofAct (caller : Nat) : Act → Told → Books
  | _, .reply (.ok (.connection id)) => ⟨[(caller, id)], [], []⟩
  | .connectionToken id, .token (.ok token) => ⟨[], [(token, id)], []⟩
  | .statementToken id, .token (.ok token) => ⟨[], [], [(token, id)]⟩
  | _, _ => empty

/-- The entries for a call, whose request was replied to and which returned. -/
def ofCall (caller : Nat) : Option Reply → Except Failure NativeValue → Books
  | some (.connection id), .ok (.long raw) => ⟨[(caller, id)], [(⟨raw⟩, id)], []⟩
  | some (.statement id), .ok (.long raw) => ⟨[], [], [(⟨raw⟩, id)]⟩
  | _, _ => empty

end Books

/-- A session with the books of its callers. -/
structure Shared (library : Library) where
  session : Session library
  books : Books

namespace Shared

def empty (library : Library) (limit : Nat) : Shared library :=
  ⟨.withCapacity library limit, .empty⟩

variable (conduct : Conduct library) (caller : Nat)

def acted (shared : Shared library) (act : Act) : Exchange × Shared library :=
  let (told, session) := tell conduct shared.session act
  (.acted act told, ⟨session, shared.books.add (.ofAct caller act told)⟩)

/-- A native call without a pending exception. -/
def called (shared : Shared library) (call : Call) : Exchange × Shared library :=
  let (value, environment, session) := call.run conduct .empty shared.session
  (.called call value environment.pending?,
    ⟨session, shared.books.add (.ofCall caller (call.reply? conduct shared.session)
      (call.body conduct shared.session).1)⟩)

def serve (shared : Shared library) : Line → Exchange × Shared library
  | .act act =>
    match act.connection? with
    | none => shared.acted conduct caller act
    | some place =>
      match (shared.books.own caller)[place]? with
      | none => (.nameless, shared)
      | some id => shared.acted conduct caller (act.withConnection id)
  | .call object call =>
    match call.token? with
    | none => shared.called conduct caller call
    | some _ =>
      match shared.books.token? caller object call with
      | none => (.nameless, shared)
      | some token => shared.called conduct caller (call.withToken token.raw)

/-- Serves the lines of callers in turn. -/
def run (conduct : Conduct library) (shared : Shared library) :
    List (Nat × Line) → List (Nat × Exchange) × Shared library
  | [] => ([], shared)
  | (caller, line) :: lines =>
    let (exchange, shared) := shared.serve conduct caller line
    let (exchanges, shared) := shared.run conduct lines
    ((caller, exchange) :: exchanges, shared)

end Shared

/-! ### What a line does -/

theorem tell_snd (conduct : Conduct library) (session : Session library) (act : Act) :
    (tell conduct session act).2 = act.run conduct session := by
  cases act <;> rfl

theorem prepare_connection {id : Nat} {sql : String} {made : StatementId}
    (prepared : (session.prepare conduct id sql).1 = .ok made) : made.connection = id := by
  unfold Session.prepare Session.whileOpen Session.misuse at prepared
  split at prepared
  · cases prepared
  · split at prepared
    · cases prepared
    · dsimp only at prepared
      split at prepared
      · cases prepared
      · split at prepared
        · cases prepared
        · split at prepared
          · cases prepared
          · split at prepared
            · cases prepared
              rfl
            · cases prepared

/-- Only to open gives a connection, and only to prepare gives a statement. -/
theorem perform_reply {reply : Reply}
    (replied : (session.perform conduct request).1 = .ok reply) :
    IsPlain reply ∨ (∃ config id, request = .openWith config ∧ reply = .connection id) ∨
      ∃ id sql index, request = .prepare id sql ∧ reply = .statement ⟨id, index⟩ := by
  cases request with
  | openWith config =>
    obtain ⟨id, -, rfl⟩ := Session.replying_eq_ok replied
    exact .inr (.inl ⟨config, id, rfl, rfl⟩)
  | prepare id sql =>
    obtain ⟨made, prepared, rfl⟩ := Session.replying_eq_ok replied
    obtain ⟨connection, index⟩ := made
    cases prepare_connection prepared
    exact .inr (.inr ⟨connection, sql, index, rfl, rfl⟩)
  | describe | version =>
    cases replied
    exact .inl trivial
  | _ =>
    obtain ⟨_, -, rfl⟩ := Session.replying_eq_ok replied
    exact .inl trivial

theorem perform_reply_withConnection {reply : Reply}
    (about : (Act.perform request).connection? = some subject)
    (replied : (session.perform conduct request).1 = .ok reply) :
    reply.withConnection subject = reply := by
  obtain plain | ⟨_, _, rfl, -⟩ | ⟨id, sql, index, rfl, rfl⟩ := perform_reply replied
  · cases reply with
    | connection | statement => cases plain
    | _ => rfl
  · cases about
  · cases about
    rfl

/-- A call about a connection is a run of acts about it. -/
theorem body_evolves {allowed : Act → Prop} (asked : call.request session = .ok request)
    (about : (Act.perform request).connection? = some subject)
    (permits : ∀ act, act.connection? = some subject → allowed act)
    (keeps : Keeps conduct allowed subject) :
    Evolves allowed session (call.body conduct session).2 := by
  have acts (act : Act) (isAbout : act.connection? = some subject) (session : Session library) :
      Evolves allowed session (act.run conduct session) :=
    .single act isAbout (permits act isAbout) keeps session
  have letsGo (session : Session library) :
      Evolves allowed session (letGo conduct session request.target) := by
    rw [Act.connection?] at about
    cases target : request.target with
    | nothing => exact .rest
    | connection id =>
      rw [target] at about
      exact acts (.settleConnection id) about session
    | statement id =>
      rw [target] at about
      exact acts (.settleStatement id) about session
  have performed := acts (.perform request) about session
  cases replied : (session.perform conduct request).1 with
  | error error =>
    rw [Call.body_failed conduct asked replied]
    exact performed.trans (letsGo _)
  | ok reply =>
    have own := perform_reply_withConnection about replied
    rw [Call.body_replied conduct asked replied]
    refine (performed.trans ?_).trans (letsGo _)
    cases reply with
    | connection id =>
      cases own
      exact (acts (.connectionToken subject) rfl _).trans (acts (.releaseConnection subject) rfl _)
    | statement id =>
      obtain ⟨id, index⟩ := id
      cases own
      exact (acts (.statementToken ⟨subject, index⟩) rfl _).trans
        (acts (.releaseStatement ⟨subject, index⟩) rfl _)
    | _ => exact .rest

section Advancing

variable (separation : Separation library) (decides : Decides conduct answer)
  (isOld : subject < session.connections.length)

include decides isOld

theorem letGo_advance (about : (Act.perform request).connection? = some subject) :
    Advance separation subject [] [] session (letGo conduct session request.target) := by
  rw [Act.connection?] at about
  cases target : request.target with
  | nothing =>
    rw [target] at about
    cases about
  | connection id =>
    rw [target] at about
    exact .act decides (.settleConnection id) about rfl isOld
  | statement id =>
    rw [target] at about
    exact .act decides (.settleStatement id) about rfl isOld

/-- A handle that is sent gets a token, if any does. -/
theorem send_advance (caller : Nat) (matched : session.TokensMatched) {reply : Reply}
    (about : reply.withConnection subject = reply) :
    let added := Books.ofCall caller (some reply) (send conduct session reply).1
    Advance separation subject added.connectionTokens added.statementTokens session
      (send conduct session reply).2 := by
  cases reply with
  | connection id =>
    cases about
    have released : Advance separation subject [] [] (session.connectionToken subject).2
        ((session.connectionToken subject).2.releaseConnection conduct subject) :=
      .act decides (.releaseConnection subject) rfl rfl isOld
    have tokened : Advance separation subject _ [] session (session.connectionToken subject).2 :=
      .connectionToken matched isOld
    have advance := tokened.trans released
    simp only [send]
    cases made : (session.connectionToken subject).1 with
    | ok token => simpa [made, Except.map, Except.toOption, Books.ofCall] using advance
    | error => simpa [made, Except.map, Except.toOption, Books.ofCall, Books.empty] using advance
  | statement id =>
    obtain ⟨id, index⟩ := id
    cases about
    have released : Advance separation subject [] [] (session.statementToken ⟨subject, index⟩).2
        ((session.statementToken ⟨subject, index⟩).2.releaseStatement conduct ⟨subject, index⟩) :=
      .act decides (.releaseStatement ⟨subject, index⟩) rfl rfl isOld
    have tokened : Advance separation subject [] _ session
        (session.statementToken ⟨subject, index⟩).2 := .statementToken matched isOld
    have advance := tokened.trans released
    simp only [send]
    cases made : (session.statementToken ⟨subject, index⟩).1 with
    | ok token => simpa [made, Except.map, Except.toOption, Books.ofCall] using advance
    | error => simpa [made, Except.map, Except.toOption, Books.ofCall, Books.empty] using advance
  | _ => exact .refl

/-- A call about a connection. -/
theorem body_advance (caller : Nat) (matched : session.TokensMatched)
    (asked : call.request session = .ok request)
    (about : (Act.perform request).connection? = some subject) :
    let added := Books.ofCall caller (call.reply? conduct session) (call.body conduct session).1
    Advance separation subject added.connectionTokens added.statementTokens session
      (call.body conduct session).2 := by
  have performed : Advance separation subject [] [] session (session.perform conduct request).2 :=
    .act decides (.perform request) about rfl isOld
  have isOld' := Nat.lt_of_lt_of_le isOld performed.length_le
  cases replied : (session.perform conduct request).1 with
  | error error =>
    rw [Call.body_failed conduct asked replied]
    simp only [Call.reply?, asked, replied, Except.toOption, Books.ofCall]
    exact performed.trans (letGo_advance separation decides isOld' about)
  | ok reply =>
    have own := perform_reply_withConnection about replied
    rw [Call.body_replied conduct asked replied]
    simp only [Call.reply?, asked, replied, Except.toOption]
    have sent := send_advance separation decides isOld' caller (performed.matched matched) own
    have ended := (performed.trans sent).trans
      (letGo_advance separation decides (Nat.lt_of_lt_of_le isOld' sent.length_le) about)
    simpa only [List.nil_append, List.append_nil] using ended

end Advancing

/-- A call asks for something about no object only if it takes no token. -/
theorem target_eq_nothing_iff (asked : call.request session = .ok request) :
    request.target = .nothing ↔ call.token? = none := by
  have asks := Call.request_asks asked
  rw [Call.token?, Option.or_eq_none_iff]
  cases target : request.target with
  | nothing =>
    rw [target] at asks
    exact iff_of_true rfl asks
  | connection =>
    rw [target] at asks
    obtain ⟨raw, taken, -⟩ := asks
    exact iff_of_false nofun fun untokened => by cases untokened.1.symm.trans taken
  | statement =>
    rw [target] at asks
    obtain ⟨raw, taken, -⟩ := asks
    exact iff_of_false nofun fun untokened => by cases untokened.2.symm.trans taken

/-- A call that takes no token. -/
theorem body_advance_of_token?_eq_none (separation : Separation library)
    (decides : Decides conduct answer) (caller : Nat) (matched : session.TokensMatched)
    (untokened : call.token? = none) :
    let added := Books.ofCall caller (call.reply? conduct session) (call.body conduct session).1
    Advance separation session.connections.length added.connectionTokens added.statementTokens
        session (call.body conduct session).2 ∧
      (added.connections = [] ∨
        (added.connections = [(caller, session.connections.length)] ∧
          session.connections.length < (call.body conduct session).2.connections.length)) := by
  cases asked : call.request session with
  | error failure =>
    rw [Call.body_refused conduct asked]
    simp only [Call.reply?, asked, Books.ofCall]
    exact ⟨.refl, .inl rfl⟩
  | ok request =>
    have nothing := (target_eq_nothing_iff asked).mpr untokened
    cases request with
    | openWith config =>
      have opened : Advance separation session.connections.length [] [] session
          (session.openWith conduct config).2 := .openWith conduct session config
      obtain ⟨error, failed, -⟩ | ⟨replied, quiet⟩ := Session.openWith_quiet conduct session config
      · have failed' : (session.perform conduct (.openWith config)).1 = .error error := by
          simp only [Session.perform, Session.replying, failed, Except.map]
        rw [Call.body_failed conduct asked failed']
        simp only [Call.reply?, asked, failed', Except.toOption, Books.ofCall]
        exact ⟨opened, .inl rfl⟩
      · have replied' : (session.perform conduct (.openWith config)).1 =
            .ok (.connection session.connections.length) := by
          simp only [Session.perform, Session.replying, replied, Except.map]
        have isOld : session.connections.length <
            (session.openWith conduct config).2.connections.length := by
          rw [quiet.connections, Session.addConnection, List.length_append]
          exact Nat.lt_succ_self _
        rw [Call.body_replied conduct asked replied']
        simp only [Call.reply?, asked, replied', Except.toOption]
        have own : (Reply.connection session.connections.length).withConnection
            session.connections.length = .connection session.connections.length := rfl
        have sent := send_advance separation decides isOld caller (opened.matched matched) own
        refine ⟨opened.trans sent, ?_⟩
        have isOld' := Nat.lt_of_lt_of_le isOld sent.length_le
        unfold Books.ofCall
        split
        · rename_i same _
          cases same
          exact .inr ⟨rfl, isOld'⟩
        · exact .inl rfl
        · exact .inl rfl
    | describe | version =>
      rw [Call.body_replied conduct asked rfl]
      simp only [Call.reply?, asked]
      exact ⟨.refl, .inl rfl⟩
    | _ => cases nothing

/-! ### What is on the books -/

namespace Shared

/-- A line of a caller about one of its connections, or about the next one. -/
structure Served (separation : Separation library) (caller subject : Nat) (added : Books)
    (before after : Shared library) : Prop where
  advance : Advance separation subject added.connectionTokens added.statementTokens before.session
    after.session
  books : after.books = before.books.add added
  opened : added.connections = [] ∨
    (added.connections = [(caller, subject)] ∧ subject = before.session.connections.length ∧
      subject < after.session.connections.length)
  isOwn : subject ∈ before.books.own caller ∨ subject = before.session.connections.length

variable {shared before after : Shared library} {added : Books}

/-- An act about a connection of the caller's own. -/
theorem acted_served (separation : Separation library) (decides : Decides conduct answer)
    (matched : shared.session.TokensMatched) {act : Act} (about : act.connection? = some subject)
    (isOwn : subject ∈ shared.books.own caller)
    (isOld : subject < shared.session.connections.length) :
    Served separation caller subject (.ofAct caller act (tell conduct shared.session act).1) shared
      (shared.acted conduct caller act).2 := by
  have plain (tokenless : act.isTokenless = true)
      (unbooked : Books.ofAct caller act (tell conduct shared.session act).1 = .empty) :
      Served separation caller subject (.ofAct caller act (tell conduct shared.session act).1) shared
        (shared.acted conduct caller act).2 := by
    refine ⟨?_, rfl, .inl (unbooked ▸ rfl), .inl isOwn⟩
    have advance : Advance separation subject [] [] shared.session (act.run conduct shared.session) :=
      .act decides act about tokenless isOld
    rw [unbooked]
    rw [← tell_snd] at advance
    exact advance
  cases act with
  | connectionToken id =>
    cases about
    refine ⟨?_, rfl, .inl ?_, .inl isOwn⟩
    · have advance : Advance separation subject _ [] shared.session
          (shared.session.connectionToken subject).2 := .connectionToken matched isOld
      simp only [tell, acted]
      cases made : (shared.session.connectionToken subject).1 with
      | ok token => simpa [made, Except.toOption, Books.ofAct] using advance
      | error => simpa [made, Except.toOption, Books.ofAct, Books.empty] using advance
    · simp only [tell]
      cases (shared.session.connectionToken subject).1 <;> rfl
  | statementToken id =>
    obtain ⟨id, index⟩ := id
    obtain rfl : subject = id := (Option.some.inj about).symm
    refine ⟨?_, rfl, .inl ?_, .inl isOwn⟩
    · have advance : Advance separation subject [] _ shared.session
          (shared.session.statementToken ⟨subject, index⟩).2 := .statementToken matched isOld
      simp only [tell, acted]
      cases made : (shared.session.statementToken ⟨subject, index⟩).1 with
      | ok token => simpa [made, Except.toOption, Books.ofAct] using advance
      | error => simpa [made, Except.toOption, Books.ofAct, Books.empty] using advance
    · simp only [tell]
      cases (shared.session.statementToken ⟨subject, index⟩).1 <;> rfl
  | perform request =>
    refine plain rfl ?_
    simp only [tell]
    cases replied : (shared.session.perform conduct request).1 with
    | error => rfl
    | ok reply =>
      obtain isPlain | ⟨_, _, rfl, -⟩ | ⟨_, _, _, -, rfl⟩ := perform_reply replied
      · cases reply with
        | connection => cases isPlain
        | _ => rfl
      · cases about
      · rfl
  | _ => exact plain rfl rfl

/-- An act about no connection. -/
theorem acted_served_of_nothing (separation : Separation library) (conduct : Conduct library)
    (caller : Nat) (shared : Shared library) {act : Act} (nothing : act.connection? = none) :
    Served separation caller shared.session.connections.length
      (.ofAct caller act (tell conduct shared.session act).1) shared
      (shared.acted conduct caller act).2 := by
  cases act with
  | perform request =>
    cases request with
    | openWith config =>
      have opened : Advance separation shared.session.connections.length [] [] shared.session
          (shared.session.openWith conduct config).2 := .openWith conduct shared.session config
      obtain ⟨error, failed, -⟩ | ⟨replied, quiet⟩ :=
        Session.openWith_quiet conduct shared.session config
      · simp only [tell, acted, Session.perform, Session.replying, failed]
        exact ⟨opened, rfl, .inl rfl, .inr rfl⟩
      · have isOld : shared.session.connections.length <
            (shared.session.openWith conduct config).2.connections.length := by
          rw [quiet.connections, Session.addConnection, List.length_append]
          exact Nat.lt_succ_self _
        simp only [tell, acted, Session.perform, Session.replying, replied]
        exact ⟨opened, rfl, .inr ⟨rfl, rfl, isOld⟩, .inr rfl⟩
    | describe | version => exact ⟨.refl, rfl, .inl rfl, .inr rfl⟩
    | _ => cases nothing
  | _ => cases nothing

/-- What holds between a session and the books of its callers. -/
structure Kept (shared : Shared library) : Prop where
  healthy : shared.session.Healthy
  isOld {caller id : Nat} (listed : (caller, id) ∈ shared.books.connections) :
    id < shared.session.connections.length
  nodup : (shared.books.connections.map Prod.snd).Nodup
  connectionTokens : Lists shared.books.connectionTokens shared.session.connectionTokens
  statementTokens : Lists shared.books.statementTokens shared.session.statementTokens

theorem kept_empty (limit : Nat) : (empty library limit).Kept where
  healthy := Session.healthy_withCapacity limit
  isOld := nofun
  nodup := List.nodup_nil
  connectionTokens := lists_withCapacity limit
  statementTokens := lists_withCapacity limit

theorem Kept.of_served (kept : before.Kept)
    (served : Served separation caller subject added before after)
    (registered : Throughout CallsRegistered after.session.log) : after.Kept where
  healthy := served.advance.healthy kept.healthy registered
  isOld {caller id} listed := by
    rw [served.books] at listed
    obtain old | new := List.mem_append.mp listed
    · exact Nat.lt_of_lt_of_le (kept.isOld old) served.advance.length_le
    · obtain none | ⟨one, -, isOld⟩ := served.opened
      · rw [none] at new
        cases new
      · rw [one] at new
        cases List.mem_singleton.mp new
        exact isOld
  nodup := by
    obtain none | ⟨one, isNext, -⟩ := served.opened
    · simpa only [served.books, Books.add, none, List.append_nil] using kept.nodup
    · rw [served.books, Books.add, one, List.map_append, List.nodup_append]
      refine ⟨kept.nodup, List.nodup_cons.mpr ⟨nofun, List.nodup_nil⟩, ?_⟩
      intro id listed id' listed'
      obtain ⟨⟨caller, _⟩, booked, rfl⟩ := List.mem_map.mp listed
      cases List.mem_singleton.mp listed'
      exact isNext ▸ Nat.ne_of_lt (kept.isOld booked)
  connectionTokens := served.books ▸ kept.connectionTokens.issues served.advance.issues
  statementTokens := served.books ▸ kept.statementTokens.issues served.advance.issues'

end Shared

namespace Books

variable {books : Books} {id : Nat}

theorem mem_own_iff : id ∈ books.own caller ↔ (caller, id) ∈ books.connections := by
  simp [own]

theorem mem_of_issuedTo {α : Type} [DecidableEq α] {issued : List (Token × α)} {object : α}
    {token : Token} (found : issuedTo issued object = some token) : (token, object) ∈ issued := by
  obtain ⟨entry, listed, rfl⟩ := Option.map_eq_some_iff.mp found
  have same : entry.2 = object := by simpa using List.find?_some listed
  exact same ▸ List.mem_of_find?_eq_some listed

end Books

namespace Call

theorem connectionToken?_withToken (call : Call) (raw : Int64) :
    (call.withToken raw).connectionToken? = call.connectionToken?.map fun _ => raw := by
  cases call <;> rfl

theorem statementToken?_withToken (call : Call) (raw : Int64) :
    (call.withToken raw).statementToken? = call.statementToken?.map fun _ => raw := by
  cases call <;> rfl

theorem token?_withToken (call : Call) (raw : Int64) :
    (call.withToken raw).token? = call.token?.map fun _ => raw := by cases call <;> rfl

theorem connectionToken?_eq_none {raw : Int64} (taken : call.statementToken? = some raw) :
    call.connectionToken? = none := by
  cases call <;> first | rfl | cases taken

end Call

namespace Shared

variable {shared : Shared library}

/-- A call is about the object whose token it takes. -/
theorem Kept.about (kept : shared.Kept) (once : IssuedOnce shared.books.connectionTokens)
    (once' : IssuedOnce shared.books.statementTokens) {object : StatementId} {token : Token}
    (named : shared.books.token? caller object call = some token)
    (takes : call.token?.isSome = true) :
    ∃ id, (shared.books.own caller)[object.connection]? = some id ∧ ∀ request,
      (call.withToken token.raw).request shared.session = .ok request →
        (Act.perform request).connection? = some id := by
  obtain ⟨id, own, named⟩ := Option.bind_eq_some_iff.mp named
  refine ⟨id, own, fun request asked => ?_⟩
  have asks := Call.request_asks asked
  rw [Act.connection?]
  cases target : request.target with
  | nothing =>
    have untokened := (target_eq_nothing_iff asked).mp target
    rw [Call.token?_withToken, Option.map_eq_none_iff] at untokened
    rw [untokened] at takes
    cases takes
  | connection other =>
    rw [target] at asks
    obtain ⟨raw, taken, found⟩ := asks
    rw [Call.connectionToken?_withToken] at taken
    obtain ⟨_, given, rfl⟩ := Option.map_eq_some_iff.mp taken
    rw [given, Option.isSome_some, if_pos rfl] at named
    have matched := kept.healthy.matched.connections
    have listed := kept.connectionTokens.get?_eq matched once (Books.mem_of_issuedTo named)
    rw [target_eq_ok_iff matched.consistent, listed] at found
    split at found
    · exact congrArg some (Option.some.inj found).symm
    · cases found
  | statement other =>
    rw [target] at asks
    obtain ⟨raw, taken, found⟩ := asks
    rw [Call.statementToken?_withToken] at taken
    obtain ⟨_, given, rfl⟩ := Option.map_eq_some_iff.mp taken
    rw [Call.connectionToken?_eq_none given, Option.isSome_none, if_neg Bool.false_ne_true] at named
    have matched := kept.healthy.matched.statements
    have listed := kept.statementTokens.get?_eq matched once' (Books.mem_of_issuedTo named)
    rw [target_eq_ok_iff matched.consistent, listed] at found
    split at found
    · exact congrArg (fun id => some id.connection) (Option.some.inj found).symm
    · cases found

theorem called_served (separation : Separation library) (decides : Decides conduct answer)
    (kept : shared.Kept) (isOwn : subject ∈ shared.books.own caller)
    (about : ∀ request, call.request shared.session = .ok request →
      (Act.perform request).connection? = some subject) :
    Served separation caller subject (.ofCall caller (call.reply? conduct shared.session)
      (call.body conduct shared.session).1) shared (shared.called conduct caller call).2 := by
  have isOld := kept.isOld (Books.mem_own_iff.mp isOwn)
  cases asked : call.request shared.session with
  | error failure =>
    have unbooked : Books.ofCall caller (call.reply? conduct shared.session)
        (call.body conduct shared.session).1 = .empty := by
      simp only [Call.reply?, asked, Books.ofCall]
    refine ⟨?_, rfl, .inl (unbooked ▸ rfl), .inl isOwn⟩
    have refused : (shared.called conduct caller call).2.session = shared.session :=
      congrArg Prod.snd (Call.body_refused conduct asked)
    rw [unbooked, refused]
    exact .refl
  | ok request =>
    have about := about request asked
    have advance := body_advance separation decides isOld caller kept.healthy.matched asked about
    refine ⟨advance, rfl, .inl ?_, .inl isOwn⟩
    unfold Books.ofCall
    split
    · rename_i replied _
      simp only [Call.reply?, asked] at replied
      cases performed : (shared.session.perform conduct request).1 with
      | error =>
        rw [performed] at replied
        cases replied
      | ok reply =>
        rw [performed] at replied
        cases replied
        obtain plain | ⟨_, _, rfl, -⟩ | ⟨_, _, _, -, isStatement⟩ := perform_reply performed
        · cases plain
        · cases about
        · cases isStatement
    · rfl
    · rfl

/-- A call that takes no token. -/
theorem called_served_of_nothing (separation : Separation library) (decides : Decides conduct answer)
    (caller : Nat) (matched : shared.session.TokensMatched) (untokened : call.token? = none) :
    Served separation caller shared.session.connections.length
      (.ofCall caller (call.reply? conduct shared.session) (call.body conduct shared.session).1)
      shared (shared.called conduct caller call).2 := by
  obtain ⟨advance, opened⟩ :=
    body_advance_of_token?_eq_none separation decides caller matched untokened
  exact ⟨advance, rfl, opened.imp_right fun opened => ⟨opened.1, rfl, opened.2⟩, .inr rfl⟩

theorem serve_served (separation : Separation library) (decides : Decides conduct answer)
    (kept : shared.Kept) (once : IssuedOnce shared.books.connectionTokens)
    (once' : IssuedOnce shared.books.statementTokens) (caller : Nat) (line : Line) :
    ∃ subject added, Served separation caller subject added shared
      (shared.serve conduct caller line).2 := by
  have idle : Served separation caller shared.session.connections.length .empty shared shared := by
    refine ⟨.refl, ?_, .inl rfl, .inr rfl⟩
    simp only [Books.add, Books.empty, List.append_nil]
  cases line with
  | act act =>
    simp only [serve]
    split
    · rename_i nothing
      exact ⟨_, _, acted_served_of_nothing separation conduct caller shared nothing⟩
    · rename_i place about
      split
      · exact ⟨_, _, idle⟩
      · rename_i id own
        have isOwn := List.mem_of_getElem? own
        exact ⟨id, _, acted_served separation decides kept.healthy.matched
          (Act.connection?_withConnection about) isOwn (kept.isOld (Books.mem_own_iff.mp isOwn))⟩
  | call object call =>
    simp only [serve]
    split
    · rename_i untokened
      exact ⟨_, _, called_served_of_nothing separation decides caller kept.healthy.matched untokened⟩
    · rename_i takes
      split
      · exact ⟨_, _, idle⟩
      · rename_i token named
        obtain ⟨id, own, about⟩ := kept.about once once' named (takes ▸ rfl)
        exact ⟨id, _, called_served separation decides kept (List.mem_of_getElem? own) about⟩

end Shared

end SqliteBridge.Boundary
