import SqliteBridge.Proofs.Boundary.Pairs

/-! Exchanges that cannot be told apart. A line about a pair comes to the same in both sessions, but
for the values of tokens, and leaves a pair, if there is room for the tokens that it asks for. So does
a line about nothing that is there. -/
namespace SqliteBridge.Boundary

open Books (issuedTo)
open Handle (Token)
open Handle.Population (IssuedOnce Lists Matched)
open Native (Library)
open Session (Act CallsRegistered Decides Reply Request Throughout Twins)

variable {library : Library} {separation : Separation library} {conduct : Conduct library}
  {answer : Callback → List (Option Callback × AuthorizationRequest) → Answer}

/-! ### Exchanges that cannot be told apart -/

theorem Told.anonymous_of_sameReply {id id' : Nat} {one other : Except Error Reply}
    (same : Session.SameReply id id' one other) :
    (Told.reply one).anonymous = (Told.reply other).anonymous := by
  obtain ⟨_ | reply, rfl, rfl⟩ := same
  · rfl
  · simp only [Told.anonymous, Except.map, Reply.withConnection_withConnection]

namespace Call

variable (call : Call) (raw : Int64)

theorem withToken_withToken (raw' : Int64) :
    (call.withToken raw).withToken raw' = call.withToken raw' := by cases call <;> rfl

theorem result_withToken : (call.withToken raw).result = call.result := by cases call <;> rfl

theorem issues_withToken : (call.withToken raw).issues = call.issues := by cases call <;> rfl

theorem withToken_of_token?_eq_none {call : Call} {raw : Int64} (untokened : call.token? = none) :
    call.withToken raw = call := by
  cases call with
  | openConnection | errorString | version => rfl
  | _ => cases untokened

theorem issues_of_reply? {call : Call} {session : Session library} {made : StatementId}
    (replied : call.reply? conduct session = some (.statement made)) : call.issues = true := by
  unfold reply? at replied
  split at replied
  · rename_i request asked
    cases performed : (session.perform conduct request).1 with
    | error =>
      rw [performed] at replied
      cases replied
    | ok reply =>
      rw [performed] at replied
      cases replied
      obtain plain | ⟨_, _, -, isConnection⟩ | ⟨_, _, _, rfl, -⟩ := perform_reply performed
      · cases plain
      · cases isConnection
      · cases call with
        | openConnection | prepareStatement => rfl
        | exec _ _ | bindText _ _ _ | bindBlob _ _ _ =>
          obtain ⟨_, _, later⟩ := bind_eq_ok asked
          obtain ⟨_, _, made⟩ := bind_eq_ok later
          cases made
        | errorString _ | version => cases asked
        | _ =>
          obtain ⟨_, _, made⟩ := bind_eq_ok asked
          cases made
  · cases replied

end Call

/-- The exchange of a call that starts without a pending exception. -/
def Exchange.ofOutcome (call : Call) (outcome : Except Failure NativeValue) : Exchange :=
  let (value, environment) := Environment.empty.conclude (.default call.result) outcome
  .called call value environment.pending?

theorem Exception.withoutToken_refused (raw? : Option Int64) (error : Error) :
    Exception.withoutToken raw? (.ofFailure (.refused error)) = .ofFailure (.refused error) := by
  unfold withoutToken
  split
  · rfl
  · refine if_neg fun same => ?_
    have same := congrArg Exception.className same
    simp only [lostToken, Exception.ofFailure, abortClass] at same
    cases error <;> simp [Exception.ofError, Error.exceptionClass] at same

theorem Exception.withoutToken_disposed (raw? : Option Int64) :
    Exception.withoutToken raw? (.ofFailure (.aborted Handle.disposedMessage)) =
      .ofFailure (.aborted Handle.disposedMessage) := by
  unfold withoutToken
  split
  · rfl
  · exact ite_self _

theorem Exception.withoutToken_own (token : Token) :
    Exception.withoutToken (some token.raw) (.ofFailure (lostToken token)) =
      .ofFailure (.aborted Handle.disposedMessage) := if_pos rfl

namespace Exchange

variable {call : Call} {raw raw' : Int64}

/-- What is the same for any token. -/
theorem anonymous_ofOutcome {outcome : Except Failure NativeValue}
    (same : ∀ message, outcome = .error (.aborted message) → message = Handle.disposedMessage) :
    (ofOutcome (call.withToken raw) outcome).anonymous =
      (ofOutcome (call.withToken raw') outcome).anonymous := by
  cases outcome with
  | ok value =>
    simp only [ofOutcome, anonymous, Environment.conclude, Environment.empty,
      Call.withToken_withToken, Call.issues_withToken]
    rfl
  | error failure =>
    simp only [ofOutcome, anonymous, Environment.conclude, Environment.empty, Environment.raise,
      Call.withToken_withToken, Call.issues_withToken, Call.result_withToken, Option.map_some]
    cases failure with
    | refused error => rw [Exception.withoutToken_refused, Exception.withoutToken_refused]
    | aborted message =>
      cases same message rfl
      rw [Exception.withoutToken_disposed, Exception.withoutToken_disposed]

theorem anonymous_ofOutcome_issued {value value' : NativeValue} (issues : call.issues = true) :
    (ofOutcome (call.withToken raw) (.ok value)).anonymous =
      (ofOutcome (call.withToken raw') (.ok value')).anonymous := by
  simp only [ofOutcome, anonymous, Environment.conclude, Environment.empty,
    Call.withToken_withToken, Call.issues_withToken, issues]
  rfl

theorem anonymous_ofOutcome_disposed {token token' : Token} (takes : call.token?.isSome = true) :
    (ofOutcome (call.withToken token.raw) (.error (lostToken token))).anonymous =
      (ofOutcome (call.withToken token'.raw) (.error (lostToken token'))).anonymous := by
  obtain ⟨_, taken⟩ := Option.isSome_iff_exists.mp takes
  simp only [ofOutcome, anonymous, Environment.conclude, Environment.empty, Environment.raise,
    Call.withToken_withToken, Call.issues_withToken, Call.result_withToken, Option.map_some,
    Call.token?_withToken, taken, Exception.withoutToken_own, Option.isNone_some, Bool.and_false]

theorem lacksRoom_called {value : NativeValue} {exception : Exception}
    (same : exception.className = Error.exceptionClass (.exhausted 0)) :
    (called call value (some exception)).lacksRoom = true := decide_eq_true same

/-- What lacks room shows. -/
theorem lacksRoom_ofOutcome {outcome : Except Failure NativeValue}
    (room : (ofOutcome call outcome).lacksRoom = false) :
    SqliteBridge.lacksRoom outcome = false := by
  cases outcome with
  | ok => rfl
  | error failure =>
    cases failure with
    | aborted => rfl
    | refused error =>
      cases error with
      | exhausted capacity =>
        have shown : (called call (.default call.result)
          (some (.ofFailure (.refused (.exhausted capacity))))).lacksRoom = true :=
          lacksRoom_called rfl
        exact absurd (shown.symm.trans room) Bool.true_eq_false.mp
      | _ => rfl

end Exchange

/-! ### Lines about pairs -/

namespace Shared

variable {first second : Shared library} {caller id id' place : Nat} {call : Call}

/-- An act in which no token is asked for is not on the books. -/
theorem ofAct_of_isTokenless (caller : Nat) {act : Act} (tokenless : act.isTokenless = true)
    (told : Told) :
    (Books.ofAct caller act told).connectionTokens = [] ∧
      (Books.ofAct caller act told).statementTokens = [] := by
  unfold Books.ofAct
  split
  · exact ⟨rfl, rfl⟩
  · cases tokenless
  · cases tokenless
  · exact ⟨rfl, rfl⟩

theorem Served.unopened_of_lt {added : Books} {first' : Shared library} {subject : Nat}
    (served : Served separation caller subject added first first')
    (isOld : subject < first.session.connections.length) : added.connections = [] :=
  served.opened.elim id fun opened => absurd opened.2.1 (Nat.ne_of_lt isOld)

theorem acted_alike (decides : Decides conduct answer) (kept : first.Kept) (kept' : second.Kept)
    (pair : Pair separation id id' first second) {act : Act} (about : act.connection? = some place)
    (registered : Throughout CallsRegistered
      (first.acted conduct caller (act.withConnection id)).2.session.log)
    (registered' : Throughout CallsRegistered
      (second.acted conduct caller (act.withConnection id')).2.session.log)
    (room : (first.acted conduct caller (act.withConnection id)).1.lacksRoom = false)
    (room' : (second.acted conduct caller (act.withConnection id')).1.lacksRoom = false) :
    (first.acted conduct caller (act.withConnection id)).1.anonymous =
        (second.acted conduct caller (act.withConnection id')).1.anonymous ∧
      Pair separation id id' (first.acted conduct caller (act.withConnection id)).2
        (second.acted conduct caller (act.withConnection id')).2 := by
  have attested := Session.Attested.mk kept.healthy.custody registered
  have attested' := Session.Attested.mk kept'.healthy.custody registered'
  have twins := pair.twins
  have congr (tokenless : act.isTokenless = true)
      (twins : Twins separation id id'
        (first.acted conduct caller (act.withConnection id)).2.session
        (second.acted conduct caller (act.withConnection id')).2.session) :
      Pair separation id id' (first.acted conduct caller (act.withConnection id)).2
        (second.acted conduct caller (act.withConnection id')).2 := by
    have tokenless (id : Nat) : (act.withConnection id).isTokenless = true := by
      cases act <;> exact tokenless
    exact pair.congr twins rfl rfl (ofAct_of_isTokenless caller (tokenless id) _)
      (ofAct_of_isTokenless caller (tokenless id') _)
  cases act with
  | perform request =>
    have target : request.target ≠ .nothing := by
      intro nothing
      rw [Act.connection?, nothing] at about
      cases about
    obtain ⟨same, ran⟩ := twins.perform decides target attested attested'
    exact ⟨congrArg₂ Exchange.acted ((Act.withConnection_withConnection _ id 0).trans
      (Act.withConnection_withConnection _ id' 0).symm) (Told.anonymous_of_sameReply same),
      congr rfl ran⟩
  | connectionToken =>
    obtain ⟨told, ran⟩ :=
      twins.connection_toToken kept.healthy.matched kept'.healthy.matched room room'
    simp only [acted, tell, Act.withConnection, Exchange.anonymous, Told.anonymous]
    obtain ⟨token, token', made, made'⟩ | ⟨refused, refused'⟩ := told
    · rw [made, made']
      exact ⟨rfl, pair.addConnectionToken ran rfl rfl⟩
    · rw [refused, refused']
      exact ⟨rfl, pair.congr ran rfl rfl ⟨rfl, rfl⟩ ⟨rfl, rfl⟩⟩
  | statementToken statement =>
    obtain ⟨told, ran⟩ := twins.statement_toToken kept.healthy.matched kept'.healthy.matched
      statement.index room room'
    simp only [acted, tell, Act.withConnection, Exchange.anonymous, Told.anonymous]
    obtain ⟨token, token', made, made'⟩ | ⟨refused, refused'⟩ := told
    · rw [made, made']
      exact ⟨rfl, pair.addStatementToken ran rfl rfl⟩
    · rw [refused, refused']
      exact ⟨rfl, pair.congr ran rfl rfl ⟨rfl, rfl⟩ ⟨rfl, rfl⟩⟩
  | releaseConnection => exact ⟨rfl, congr rfl (twins.releaseConnection conduct)⟩
  | releaseStatement => exact ⟨rfl, congr rfl (twins.releaseStatement decides attested attested')⟩
  | settleConnection => exact ⟨rfl, congr rfl (twins.settleConnection conduct)⟩
  | settleStatement => exact ⟨rfl, congr rfl (twins.settleStatement decides attested attested')⟩

theorem called_fst (conduct : Conduct library) (caller : Nat) (shared : Shared library)
    (call : Call) : (shared.called conduct caller call).1 =
      .ofOutcome call (call.body conduct shared.session).1 := rfl

theorem issues_of_ofCall {session : Session library} {outcome : Except Failure NativeValue}
    {entry : Token × StatementId}
    (booked : Books.ofCall caller (call.reply? conduct session) outcome = ⟨[], [], [entry]⟩) :
    call.issues = true := by
  unfold Books.ofCall at booked
  split at booked
  · cases booked
  · rename_i replied
    exact Call.issues_of_reply? replied
  · cases booked

/-- Calls that match in what comes of them. -/
theorem of_matching (pair : Pair separation id id' first second) {raw raw' : Int64}
    (ran : Twins separation id id' (first.called conduct caller (call.withToken raw)).2.session
      (second.called conduct caller (call.withToken raw')).2.session)
    (matching : Matching id id'
      (((call.withToken raw).body conduct first.session).1, .ofCall caller
        ((call.withToken raw).reply? conduct first.session)
        ((call.withToken raw).body conduct first.session).1)
      (((call.withToken raw').body conduct second.session).1, .ofCall caller
        ((call.withToken raw').reply? conduct second.session)
        ((call.withToken raw').body conduct second.session).1)) :
    (first.called conduct caller (call.withToken raw)).1.anonymous =
        (second.called conduct caller (call.withToken raw')).1.anonymous ∧
      Pair separation id id' (first.called conduct caller (call.withToken raw)).2
        (second.called conduct caller (call.withToken raw')).2 := by
  rw [called_fst, called_fst]
  obtain ⟨outcome, one, other, same⟩ | ⟨token, token', index, one, other⟩ := matching
  · obtain ⟨ended, unbooked⟩ := Prod.mk.inj one
    obtain ⟨ended', unbooked'⟩ := Prod.mk.inj other
    rw [ended, ended']
    exact ⟨Exchange.anonymous_ofOutcome same, pair.congr ran (congrArg first.books.add unbooked)
      (congrArg second.books.add unbooked') ⟨rfl, rfl⟩ ⟨rfl, rfl⟩⟩
  · obtain ⟨ended, booked⟩ := Prod.mk.inj one
    obtain ⟨ended', booked'⟩ := Prod.mk.inj other
    have issues := Call.issues_withToken call raw ▸ issues_of_ofCall booked
    rw [ended, ended']
    exact ⟨Exchange.anonymous_ofOutcome_issued issues, pair.addStatementToken ran
      (congrArg first.books.add booked) (congrArg second.books.add booked')⟩

/-- A call by the tokens of a pair. -/
theorem called_alike (decides : Decides conduct answer) (kept : first.Kept) (kept' : second.Kept)
    (pair : Pair separation id id' first second) {raw raw' : Int64} {index : Nat}
    (takes : call.token?.isSome = true) (isOld : id < first.session.connections.length)
    (isOld' : id' < second.session.connections.length)
    (asked : (call.withToken raw).request first.session =
      Call.argument ((call.template index).map (Request.withConnection id)))
    (asked' : (call.withToken raw').request second.session =
      Call.argument ((call.template index).map (Request.withConnection id')))
    (registered : Throughout CallsRegistered
      (first.called conduct caller (call.withToken raw)).2.session.log)
    (registered' : Throughout CallsRegistered
      (second.called conduct caller (call.withToken raw')).2.session.log)
    (room : (first.called conduct caller (call.withToken raw)).1.lacksRoom = false)
    (room' : (second.called conduct caller (call.withToken raw')).1.lacksRoom = false) :
    (first.called conduct caller (call.withToken raw)).1.anonymous =
        (second.called conduct caller (call.withToken raw')).1.anonymous ∧
      Pair separation id id' (first.called conduct caller (call.withToken raw)).2
        (second.called conduct caller (call.withToken raw')).2 := by
  cases template : call.template index with
  | error error =>
    rw [template] at asked asked'
    have refused := Call.body_refused conduct asked
    have refused' := Call.body_refused conduct asked'
    refine of_matching pair ?_ (.inl ⟨.error (.refused error), ?_, ?_, nofun⟩)
    · have same : (first.called conduct caller (call.withToken raw)).2.session = first.session :=
        congrArg Prod.snd refused
      have same' : (second.called conduct caller (call.withToken raw')).2.session = second.session :=
        congrArg Prod.snd refused'
      rw [same, same']
      exact pair.twins
    · rw [refused, Call.reply?, asked]
      rfl
    · rw [refused', Call.reply?, asked']
      rfl
  | ok request =>
    rw [template] at asked asked'
    obtain ⟨matching, ran⟩ := body_alike decides pair.twins kept.healthy kept'.healthy caller isOld
      isOld' (Call.target_template takes template) asked asked' registered registered'
      (Exchange.lacksRoom_ofOutcome room) (Exchange.lacksRoom_ofOutcome room')
    exact of_matching pair ran matching

/-- A call by tokens that a pair has given up. -/
theorem called_disposed (pair : Pair separation id id' first second) {token token' : Token}
    (takes : call.token?.isSome = true)
    (asked : (call.withToken token.raw).request first.session = .error (lostToken token))
    (asked' : (call.withToken token'.raw).request second.session = .error (lostToken token')) :
    (first.called conduct caller (call.withToken token.raw)).1.anonymous =
        (second.called conduct caller (call.withToken token'.raw)).1.anonymous ∧
      Pair separation id id' (first.called conduct caller (call.withToken token.raw)).2
        (second.called conduct caller (call.withToken token'.raw)).2 := by
  have kept {shared : Shared library} {call : Call} {failure : Failure}
      (asked : call.request shared.session = .error failure) :
      (shared.called conduct caller call).2.session = shared.session ∧
        (shared.called conduct caller call).2.books = shared.books.add .empty :=
    ⟨congrArg Prod.snd (Call.body_refused conduct asked), by
      simp only [called, Call.reply?, asked, Books.ofCall]⟩
  rw [called_fst, called_fst, Call.body_refused conduct asked, Call.body_refused conduct asked']
  refine ⟨Exchange.anonymous_ofOutcome_disposed takes, pair.congr ?_ (kept asked).2 (kept asked').2
    ⟨rfl, rfl⟩ ⟨rfl, rfl⟩⟩
  rw [(kept asked).1, (kept asked').1]
  exact pair.twins

/-- What the tokens of a pair stand for: both for their objects, or both for nothing. -/
theorem target_alike {α β : Type} [DecidableEq α] [DecidableEq β]
    {population : Handle.Population α} {other : Handle.Population β} {object : α} {object' : β}
    {issued : List (Token × α)} {issued' : List (Token × β)} {token token' : Token}
    (matched : Matched population) (matched' : Matched other) (lists : Lists issued population)
    (lists' : Lists issued' other) (once : IssuedOnce issued) (once' : IssuedOnce issued')
    (same : (population.reference object).anonymous = (other.reference object').anonymous)
    (listed : (token, object) ∈ issued) (listed' : (token', object') ∈ issued') :
    (target population.table token.raw = .ok object ∧ target other.table token'.raw = .ok object') ∨
      (target population.table token.raw = .error (lostToken token) ∧
        target other.table token'.raw = .error (lostToken token')) := by
  obtain ⟨valid, state⟩ := lists.settled listed
  obtain ⟨valid', state'⟩ := lists'.settled listed'
  have found := lists.get?_eq matched once listed
  have found' := lists'.get?_eq matched' once' listed'
  obtain live | disposed := state
  · obtain live' | disposed' := state'
    · rw [if_pos live] at found
      rw [if_pos live'] at found'
      exact .inl ⟨(target_eq_ok_iff matched.consistent).mpr found,
        (target_eq_ok_iff matched'.consistent).mpr found'⟩
    · rw [live, disposed'] at same
      cases same
  · obtain live' | disposed' := state'
    · rw [disposed, live'] at same
      cases same
    · rw [disposed, if_neg nofun] at found
      rw [disposed', if_neg nofun] at found'
      refine .inr ⟨?_, ?_⟩
      · simp only [target, valid, Handle.Table.resolve, found, lostToken]
      · simp only [target, valid', Handle.Table.resolve, found', lostToken]

/-- A line of the caller's own, in both runs. -/
theorem Accord.called (accord : Accord separation caller first second)
    (decides : Decides conduct answer) (once : IssuedOnce first.books.connectionTokens)
    (once' : IssuedOnce first.books.statementTokens)
    (onceMore : IssuedOnce second.books.connectionTokens)
    (onceMore' : IssuedOnce second.books.statementTokens) (takes : call.token?.isSome = true)
    {object : StatementId} {token token' : Token}
    (named : first.books.token? caller object call = some token)
    (named' : second.books.token? caller object call = some token')
    (registered : Throughout CallsRegistered
      (first.called conduct caller (call.withToken token.raw)).2.session.log)
    (registered' : Throughout CallsRegistered
      (second.called conduct caller (call.withToken token'.raw)).2.session.log)
    (room : (first.called conduct caller (call.withToken token.raw)).1.lacksRoom = false)
    (room' : (second.called conduct caller (call.withToken token'.raw)).1.lacksRoom = false) :
    (first.called conduct caller (call.withToken token.raw)).1.anonymous =
        (second.called conduct caller (call.withToken token'.raw)).1.anonymous ∧
      Accord separation caller (first.called conduct caller (call.withToken token.raw)).2
        (second.called conduct caller (call.withToken token'.raw)).2 := by
  obtain ⟨id, own, about⟩ := accord.kept.about once once' named takes
  obtain ⟨id', own', about'⟩ := accord.kept'.about onceMore onceMore' named' takes
  have served := called_served separation decides accord.kept (List.mem_of_getElem? own) about
  have served' := called_served separation decides accord.kept' (List.mem_of_getElem? own') about'
  have pair := accord.pairs own own'
  have isOld := accord.kept.own_isOld own
  have isOld' := accord.kept'.own_isOld own'
  have matched := accord.kept.healthy.matched
  have matched' := accord.kept'.healthy.matched
  rw [Books.token?, own, Option.bind_some] at named
  rw [Books.token?, own', Option.bind_some] at named'
  have alike : (first.called conduct caller (call.withToken token.raw)).1.anonymous =
        (second.called conduct caller (call.withToken token'.raw)).1.anonymous ∧
      Pair separation id id' (first.called conduct caller (call.withToken token.raw)).2
        (second.called conduct caller (call.withToken token'.raw)).2 := by
    by_cases connects : call.connectionToken?.isSome = true
    · rw [if_pos connects] at named named'
      obtain ⟨found, found'⟩ | ⟨lost, lost'⟩ := target_alike matched.connections matched'.connections
        accord.kept.connectionTokens accord.kept'.connectionTokens once onceMore pair.twins.token
        (Books.mem_of_issuedTo named) (Books.mem_of_issuedTo named')
      · exact called_alike decides accord.kept accord.kept' pair takes isOld isOld'
          (Call.request_of_connection 0 connects found)
          (Call.request_of_connection 0 connects found') registered registered' room room'
      · exact called_disposed pair takes (Call.request_of_no_connection connects lost)
          (Call.request_of_no_connection connects lost')
    · rw [if_neg connects] at named named'
      have states : call.statementToken?.isSome = true := by
        rw [Call.token?, Option.not_isSome_iff_eq_none.mp connects, Option.none_or] at takes
        exact takes
      obtain ⟨found, found'⟩ | ⟨lost, lost'⟩ := target_alike matched.statements matched'.statements
        accord.kept.statementTokens accord.kept'.statementTokens once' onceMore'
        (pair.twins.toResemble.statementToken object.index) (Books.mem_of_issuedTo named)
        (Books.mem_of_issuedTo named')
      · exact called_alike decides accord.kept accord.kept' pair takes isOld isOld'
          (Call.request_of_statement states found) (Call.request_of_statement states found')
          registered registered' room room'
      · exact called_disposed pair takes (Call.request_of_no_statement states lost)
          (Call.request_of_no_statement states lost')
  exact ⟨alike.1, accord.of_pair served served' registered registered' (served.unopened_of_lt isOld)
    (served'.unopened_of_lt isOld') own own' alike.2⟩

/-! ### Lines about nothing that is there -/

/-- New connections, for which no token was put on the books. -/
theorem pair_of_next {first' second' : Shared library} {added added' : Books} (kept : first.Kept)
    (kept' : second.Kept)
    (twins : Twins separation first.session.connections.length second.session.connections.length
      first'.session second'.session)
    (books : first'.books = first.books.add added) (books' : second'.books = second.books.add added')
    (tokenless : added.connectionTokens = [] ∧ added.statementTokens = [])
    (tokenless' : added'.connectionTokens = [] ∧ added'.statementTokens = []) :
    Pair separation first.session.connections.length second.session.connections.length first'
      second' := by
  obtain ⟨untokened, untokened'⟩ := kept.issuedTo_eq_none (Nat.le_refl _)
  obtain ⟨untokened₂, untokened₂'⟩ := kept'.issuedTo_eq_none (Nat.le_refl _)
  obtain ⟨none, none'⟩ := tokenless
  obtain ⟨none₂, none₂'⟩ := tokenless'
  refine ⟨twins, ?_, fun index => ?_⟩
  · simp only [books, books', Books.add, none, none₂, List.append_nil, untokened, untokened₂]
  · simp only [books, books', Books.add, none', none₂', List.append_nil, untokened', untokened₂']

theorem Accord.acted_of_nothing (accord : Accord separation caller first second) {act : Act}
    (nothing : act.connection? = none)
    (inMemory : ∀ config, act = .perform (.openWith config) → config.path = ":memory:")
    (registered : Throughout CallsRegistered (first.acted conduct caller act).2.session.log)
    (registered' : Throughout CallsRegistered (second.acted conduct caller act).2.session.log) :
    (first.acted conduct caller act).1.anonymous = (second.acted conduct caller act).1.anonymous ∧
      Accord separation caller (first.acted conduct caller act).2
        (second.acted conduct caller act).2 := by
  have served := acted_served_of_nothing separation conduct caller first nothing
  have served' := acted_served_of_nothing separation conduct caller second nothing
  cases act with
  | perform request =>
    cases request with
    | openWith config =>
      obtain ⟨error, failed, failed'⟩ | ⟨made, made', twins⟩ := Session.openWith_alike separation
        accord.kept.healthy.vacant accord.kept'.healthy.vacant (inMemory config rfl) conduct
      · have told {session : Session library}
            (failed : (session.openWith conduct config).1 = .error error) :
            (tell conduct session (.perform (.openWith config))).1 = .reply (.error error) := by
          simp only [tell, Session.perform, Session.replying, failed]
          rfl
        rw [told failed] at served
        rw [told failed'] at served'
        refine ⟨?_, accord.of_nothing served served' registered registered' rfl rfl rfl rfl⟩
        simp only [acted, told failed, told failed']
      · have told {session : Session library}
            (made : (session.openWith conduct config).1 = .ok session.connections.length) :
            (tell conduct session (.perform (.openWith config))).1 =
              .reply (.ok (.connection session.connections.length)) := by
          simp only [tell, Session.perform, Session.replying, made]
          rfl
        rw [told made] at served
        rw [told made'] at served'
        have pair := pair_of_next accord.kept accord.kept' twins served.books served'.books
          ⟨rfl, rfl⟩ ⟨rfl, rfl⟩
        refine ⟨?_, accord.opened served served' registered registered' rfl rfl pair⟩
        simp only [acted, told made, told made']
        rfl
    | describe | version =>
      exact ⟨rfl, accord.of_nothing served served' registered registered' rfl rfl rfl rfl⟩
    | _ => cases nothing
  | _ => cases nothing

theorem path_of_template {config : OpenConfig}
    (asked : call.template 0 = .ok (.openWith config)) :
    call = .openConnection (some config.path) := by
  cases call with
  | openConnection path? =>
    cases path? with
    | none => cases asked
    | some path => cases asked; rfl
  | prepareStatement _ s? | exec _ s? | bindText _ _ s? => cases s? <;> cases asked
  | bindBlob _ _ bytes? => cases bytes? <;> cases asked
  | _ => cases asked

/-- A call that opens a connection returns what its token is. -/
theorem body_opened {session : Session library} {config : OpenConfig}
    (asked : call.request session = .ok (.openWith config))
    (made : (session.openWith conduct config).1 = .ok session.connections.length) :
    let opened := (session.openWith conduct config).2.connectionToken session.connections.length
    call.body conduct session = (opened.1.map fun token => .long token.raw,
        opened.2.releaseConnection conduct session.connections.length) ∧
      call.reply? conduct session = some (.connection session.connections.length) := by
  have replied : (session.perform conduct (.openWith config)).1 =
      .ok (.connection session.connections.length) := by
    simp only [Session.perform, Session.replying, made, Except.map]
  refine ⟨Call.body_replied conduct asked replied, ?_⟩
  simp only [Call.reply?, asked, replied, Except.toOption]

/-- A call that returned the tokens of new connections. -/
theorem Accord.called_opened (accord : Accord separation caller first second) {token token' : Token}
    (issues : call.issues = true) (untokened : call.token? = none)
    (served : Served separation caller first.session.connections.length
      ⟨[(caller, first.session.connections.length)], [(token, first.session.connections.length)], []⟩
      first (first.called conduct caller call).2)
    (served' : Served separation caller second.session.connections.length
      ⟨[(caller, second.session.connections.length)], [(token', second.session.connections.length)],
        []⟩ second (second.called conduct caller call).2)
    (registered : Throughout CallsRegistered (first.called conduct caller call).2.session.log)
    (registered' : Throughout CallsRegistered (second.called conduct caller call).2.session.log)
    (twins : Twins separation first.session.connections.length second.session.connections.length
      (first.called conduct caller call).2.session (second.called conduct caller call).2.session)
    (told : (call.body conduct first.session).1 = .ok (.long token.raw))
    (told' : (call.body conduct second.session).1 = .ok (.long token'.raw)) :
    (first.called conduct caller call).1.anonymous =
        (second.called conduct caller call).1.anonymous ∧
      Accord separation caller (first.called conduct caller call).2
        (second.called conduct caller call).2 := by
  constructor
  · have same : (Exchange.ofOutcome (call.withToken 0) (.ok (.long token.raw))).anonymous =
        (Exchange.ofOutcome (call.withToken 0) (.ok (.long token'.raw))).anonymous :=
      Exchange.anonymous_ofOutcome_issued issues
    rw [Call.withToken_of_token?_eq_none untokened] at same
    rw [called_fst, called_fst, told, told', same]
  · refine accord.opened served served' registered registered' rfl rfl ?_
    obtain ⟨untokened, untokened'⟩ := accord.kept.issuedTo_eq_none (Nat.le_refl _)
    obtain ⟨none, none'⟩ := accord.kept'.issuedTo_eq_none (Nat.le_refl _)
    refine ⟨twins, ?_, fun index => ?_⟩
    · rw [served.books, served'.books]
      simp only [Books.add, isSome_issuedTo_concat, decide_true, Bool.or_true]
    · rw [served.books, served'.books]
      simp only [Books.add, List.append_nil, untokened', none']

/-- A call that takes no token. -/
theorem Accord.called_of_nothing (accord : Accord separation caller first second)
    (decides : Decides conduct answer) (untokened : call.token? = none)
    (inMemory : ∀ path, call = .openConnection (some path) → path = ":memory:")
    (registered : Throughout CallsRegistered (first.called conduct caller call).2.session.log)
    (registered' : Throughout CallsRegistered (second.called conduct caller call).2.session.log)
    (room : (first.called conduct caller call).1.lacksRoom = false)
    (room' : (second.called conduct caller call).1.lacksRoom = false) :
    (first.called conduct caller call).1.anonymous =
        (second.called conduct caller call).1.anonymous ∧
      Accord separation caller (first.called conduct caller call).2
        (second.called conduct caller call).2 := by
  have matched := accord.kept.healthy.matched
  have matched' := accord.kept'.healthy.matched
  have served := called_served_of_nothing separation decides caller matched untokened
  have served' := called_served_of_nothing separation decides caller matched' untokened
  have asks (session : Session library) := call.request_of_token?_eq_none untokened session
  -- What ends in the same way and opens nothing.
  have idle (same : (call.body conduct first.session).1 = (call.body conduct second.session).1)
      (unopened : (Books.ofCall caller (call.reply? conduct first.session)
        (call.body conduct first.session).1).connections = [])
      (unopened' : (Books.ofCall caller (call.reply? conduct second.session)
        (call.body conduct second.session).1).connections = []) :
      (first.called conduct caller call).1.anonymous =
          (second.called conduct caller call).1.anonymous ∧
        Accord separation caller (first.called conduct caller call).2
          (second.called conduct caller call).2 := by
    refine ⟨?_, accord.of_nothing served served' registered registered' unopened unopened' rfl rfl⟩
    rw [called_fst, called_fst, same]
  have unbooked {shared : Shared library} (unanswered : call.reply? conduct shared.session = none) :
      (Books.ofCall caller (call.reply? conduct shared.session)
        (call.body conduct shared.session).1).connections = [] := by
    rw [unanswered]
    rfl
  cases template : call.template 0 with
  | error error =>
    rw [template] at asks
    have refused (session : Session library) := Call.body_refused conduct (asks session)
    have unanswered (session : Session library) : call.reply? conduct session = none := by
      rw [Call.reply?, asks]
      rfl
    exact idle (by rw [refused, refused]) (unbooked (unanswered _)) (unbooked (unanswered _))
  | ok request =>
    have asks (session : Session library) : call.request session = .ok request := by
      rw [asks, template]
      rfl
    have nothing := (target_eq_nothing_iff (asks first.session)).mpr untokened
    cases request with
    | openWith config =>
      have isOpen := path_of_template template
      obtain ⟨error, failed, failed'⟩ | ⟨made, made', twins⟩ := Session.openWith_alike separation
        accord.kept.healthy.vacant accord.kept'.healthy.vacant (inMemory config.path isOpen) conduct
      · have told {session : Session library}
            (failed : (session.openWith conduct config).1 = .error error) :
            (session.perform conduct (.openWith config)).1 = .error error := by
          simp only [Session.perform, Session.replying, failed, Except.map]
        have unanswered {session : Session library}
            (failed : (session.openWith conduct config).1 = .error error) :
            call.reply? conduct session = none := by
          simp only [Call.reply?, asks, told failed, Except.toOption]
        refine idle ?_ (unbooked (unanswered failed)) (unbooked (unanswered failed'))
        rw [Call.body_failed conduct (asks _) (told failed),
          Call.body_failed conduct (asks _) (told failed')]
      · obtain ⟨ended, answered⟩ := body_opened (asks _) made
        obtain ⟨ended', answered'⟩ := body_opened (asks _) made'
        have opens (session : Session library) : Session.Advance separation
            session.connections.length [] [] session (session.openWith conduct config).2 :=
          .openWith conduct session config
        have roomy := Exchange.lacksRoom_ofOutcome (called_fst conduct caller first call ▸ room)
        have roomy' := Exchange.lacksRoom_ofOutcome (called_fst conduct caller second call ▸ room')
        rw [ended, lacksRoom_map] at roomy
        rw [ended', lacksRoom_map] at roomy'
        obtain ⟨tokens, tokened⟩ := twins.connection_toToken ((opens _).matched matched)
          ((opens _).matched matched') roomy roomy'
        obtain ⟨token, token', got, got'⟩ | ⟨refused, refused'⟩ := tokens
        · have told : (call.body conduct first.session).1 = .ok (.long token.raw) := by
            rw [ended, got]
            rfl
          have told' : (call.body conduct second.session).1 = .ok (.long token'.raw) := by
            rw [ended', got']
            rfl
          rw [answered, told] at served
          rw [answered', told'] at served'
          refine accord.called_opened (isOpen ▸ rfl) untokened served served' registered registered'
            ?_ told told'
          have left : (first.called conduct caller call).2.session = _ := congrArg Prod.snd ended
          have right : (second.called conduct caller call).2.session = _ := congrArg Prod.snd ended'
          rw [left, right]
          exact tokened.releaseConnection conduct
        · refine idle ?_ ?_ ?_
          · rw [ended, ended', refused, refused']
          · rw [ended, refused, answered]
            rfl
          · rw [ended', refused', answered']
            rfl
    | describe | version =>
      refine idle ?_ ?_ ?_
      · rw [Call.body_replied conduct (asks _) rfl, Call.body_replied conduct (asks _) rfl]
        rfl
      · simp only [Call.reply?, asks]
        rfl
      · simp only [Call.reply?, asks]
        rfl
    | _ => cases nothing

end Shared

end SqliteBridge.Boundary
