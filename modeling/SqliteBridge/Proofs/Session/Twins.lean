import SqliteBridge.Proofs.Session.Bystanders
import SqliteBridge.Proofs.Session.Quiet

/-! Twins: two connections, each in a session of its own, that cannot be told apart by anything that
is asked of them. They may have different numbers, different tokens and different addresses of their
authorizers. What is asked of both of them is answered alike, and they are twins after it. -/
namespace SqliteBridge

open Native (Call Course Library Question)

/-- A reference without the value of its token. -/
def Handle.Reference.anonymous : Handle.Reference → Handle.Reference
  | live _ => live ⟨0⟩
  | unset => unset
  | disposed => disposed

theorem Handle.Reference.isSome_token?_anonymous (reference : Handle.Reference) :
    reference.anonymous.token?.isSome = reference.token?.isSome := by
  cases reference <;> rfl

/-- A handle without the address of its authorizer. -/
def ConnectionHandle.anonymous (connection : ConnectionHandle) : ConnectionHandle :=
  { connection with authorizer? := none }

theorem ConnectionHandle.eq_of_anonymous {connection connection' : ConnectionHandle}
    (same : connection.anonymous = connection'.anonymous) :
    connection' = { connection with authorizer? := connection'.authorizer? } := by
  obtain ⟨path, isClosed, address?, statements, isHeld⟩ := connection
  obtain ⟨path', isClosed', address'?, statements', isHeld'⟩ := connection'
  simp only [anonymous, mk.injEq] at same
  obtain ⟨rfl, rfl, -, rfl, rfl⟩ := same
  rfl

namespace Session

variable {library : Library} {separation : Separation library} {conduct : Conduct library}
  {first second : Session library} {id id' : Nat} {α β : Type}

/-- Callbacks that leave the session alone and answer by what was asked for their connection, the
present question included. -/
structure Decides (conduct : Conduct library)
    (answer : Callback → List (Option Callback × AuthorizationRequest) → Answer) : Prop where
  leaves (callback : Callback) (request : AuthorizationRequest) (session : Session library) :
    (conduct callback request session).2 = session
  answers {session : Session library} {id address : Nat} {callback : Callback}
    {request : AuthorizationRequest} {earlier : List Event}
    (asked : session.log = .asks id address (some callback) request :: earlier) :
    (conduct callback request session).1 = answer callback (session.askedFor id)

theorem decides_byRules (rules : List AuthorizationRules) :
    Decides (.byRules rules : Conduct library) fun callback asked =>
      (asked.head?.bind fun entry => rules[callback]?.map fun rules => rules.answer entry.2).getD
        .aborted where
  leaves _ _ _ := rfl
  answers asked := by simp [Conduct.byRules, askedFor, asked, Event.askedFor?]

/-- What two connections have in common, their authorizers left aside. -/
structure Resemble (separation : Separation library) (id id' : Nat)
    (first second : Session library) : Prop where
  handle : (first.connection? id).map ConnectionHandle.anonymous =
    (second.connection? id').map ConnectionHandle.anonymous
  token : (first.connectionTokens.reference id).anonymous =
    (second.connectionTokens.reference id').anonymous
  statementToken (index : Nat) : (first.statementTokens.reference ⟨id, index⟩).anonymous =
    (second.statementTokens.reference ⟨id', index⟩).anonymous
  asked : first.askedFor id = second.askedFor id'
  view : separation.view id first.world = separation.view id' second.world

structure Twins (separation : Separation library) (id id' : Nat) (first second : Session library) :
    Prop extends Resemble separation id id' first second where
  authorizer : first.authorizer? id = second.authorizer? id'

/-- The same result, in sessions with twins. -/
structure InStep (separation : Separation library) (id id' : Nat) (one other : α × Session library) :
    Prop where
  same : one.1 = other.1
  twins : Twins separation id id' one.2 other.2

theorem Twins.symm (twins : Twins separation id id' first second) :
    Twins separation id' id second first :=
  ⟨⟨twins.handle.symm, twins.token.symm, fun index => (twins.statementToken index).symm,
    twins.asked.symm, twins.view.symm⟩, twins.authorizer.symm⟩

/-- What is done to others makes no difference. -/
theorem Twins.of_untouched {first' : Session library} (twins : Twins separation id id' first second)
    (untouched : Untouched separation id first first') : Twins separation id id' first' second where
  handle := untouched.handles.connection ▸ twins.handle
  token := untouched.handles.connectionToken ▸ twins.token
  statementToken index := untouched.handles.statementToken index ▸ twins.statementToken index
  asked := untouched.asked ▸ twins.asked
  view := untouched.view ▸ twins.view
  authorizer := untouched.authorizer ▸ twins.authorizer

theorem Quiet.authorizer? {before after : Session library} (quiet : Quiet before after) (id : Nat) :
    after.authorizer? id = before.authorizer? id := by
  rw [Session.authorizer?, Session.authorizer?, address?_congr quiet.connections,
    funext (callback?_congr quiet.callbacks)]

namespace Resemble

variable {first' second' : Session library}

/-- A change of the library, of the record and of the callbacks. -/
theorem congr (resemble : Resemble separation id id' first second)
    (connections : first'.connections = first.connections)
    (connections' : second'.connections = second.connections)
    (connectionTokens : first'.connectionTokens = first.connectionTokens)
    (connectionTokens' : second'.connectionTokens = second.connectionTokens)
    (statementTokens : first'.statementTokens = first.statementTokens)
    (statementTokens' : second'.statementTokens = second.statementTokens)
    (asked : first'.askedFor id = second'.askedFor id')
    (view : separation.view id first'.world = separation.view id' second'.world) :
    Resemble separation id id' first' second' where
  handle := by
    rw [connection?_congr connections, connection?_congr connections']
    exact resemble.handle
  token := by
    rw [connectionTokens, connectionTokens']
    exact resemble.token
  statementToken index := by
    rw [statementTokens, statementTokens']
    exact resemble.statementToken index
  asked := asked
  view := view

/-! ### Guards -/

variable (resemble : Resemble separation id id' first second)

include resemble

theorem connection_cases :
    (first.connection? id = none ∧ second.connection? id' = none) ∨
      ∃ connection address?, first.connection? id = some connection ∧
        second.connection? id' = some { connection with authorizer? := address? } := by
  have same := resemble.handle
  cases found : first.connection? id with
  | none =>
    cases found' : second.connection? id' with
    | none => exact .inl ⟨rfl, rfl⟩
    | some => rw [found, found'] at same; cases same
  | some connection =>
    cases found' : second.connection? id' with
    | none => rw [found, found'] at same; cases same
    | some connection' =>
      rw [found, found'] at same
      exact .inr ⟨connection, connection'.authorizer?, rfl,
        congrArg some (ConnectionHandle.eq_of_anonymous (Option.some.inj same))⟩

theorem isClosed : first.isClosed id = second.isClosed id' := by
  rw [Session.isClosed, Session.isClosed]
  obtain ⟨absent, absent'⟩ | ⟨connection, address?, found, found'⟩ := resemble.connection_cases
  · rw [absent, absent']
  · rw [found, found']

theorem statement? (index : Nat) : first.statement? ⟨id, index⟩ = second.statement? ⟨id', index⟩ := by
  rw [Session.statement?, Session.statement?]
  obtain ⟨absent, absent'⟩ | ⟨connection, address?, found, found'⟩ := resemble.connection_cases
  · simp only [absent, absent', Option.bind_none]
  · simp only [found, found', Option.bind_some]

theorem isFinalized (index : Nat) :
    first.isFinalized ⟨id, index⟩ = second.isFinalized ⟨id', index⟩ := by
  rw [Session.isFinalized, Session.isFinalized, resemble.statement?]

theorem hasConnectionToken : first.hasConnectionToken id = second.hasConnectionToken id' := by
  rw [Session.hasConnectionToken, Session.hasConnectionToken,
    ← Handle.Reference.isSome_token?_anonymous, resemble.token,
    Handle.Reference.isSome_token?_anonymous]

theorem isStatementReachable (index : Nat) :
    first.isStatementReachable ⟨id, index⟩ = second.isStatementReachable ⟨id', index⟩ := by
  rw [Session.isStatementReachable, Session.isStatementReachable, resemble.statement?,
    Session.hasStatementToken, Session.hasStatementToken,
    ← Handle.Reference.isSome_token?_anonymous, resemble.statementToken,
    Handle.Reference.isSome_token?_anonymous]

theorem isConnectionReachable :
    first.isConnectionReachable id = second.isConnectionReachable id' := by
  rw [Session.isConnectionReachable, Session.isConnectionReachable]
  obtain ⟨absent, absent'⟩ | ⟨connection, address?, found, found'⟩ := resemble.connection_cases
  · rw [absent, absent']
  · simp only [found, found', resemble.hasConnectionToken, resemble.isStatementReachable]

/-! ### Edits -/

/-- An edit that has nothing to do with the address. -/
theorem update (edit : ConnectionHandle → ConnectionHandle)
    (commutes : ∀ connection, (edit connection).anonymous = edit connection.anonymous) :
    Resemble separation id id' (first.updateConnection id edit)
      (second.updateConnection id' edit) := by
  refine ⟨?_, resemble.token, resemble.statementToken, resemble.asked, resemble.view⟩
  rw [connection?_updateConnection_self, connection?_updateConnection_self]
  obtain ⟨absent, absent'⟩ | ⟨connection, address?, found, found'⟩ := resemble.connection_cases
  · simp only [absent, absent', Option.map_none]
  · simp only [found, found', Option.map_some, commutes]
    rfl

/-- The address of the authorizer is not seen. -/
theorem setAddress (address? address'? : Option Nat) :
    Resemble separation id id' (first.setAddress id address?) (second.setAddress id' address'?) := by
  refine ⟨?_, resemble.token, resemble.statementToken, resemble.asked, resemble.view⟩
  rw [Session.setAddress, Session.setAddress, connection?_updateConnection_self,
    connection?_updateConnection_self, Option.map_map, Option.map_map]
  exact resemble.handle

theorem dropCallback (address? address'? : Option Nat) :
    Resemble separation id id' (first.dropCallback address?) (second.dropCallback address'?) := by
  refine resemble.congr ?_ ?_ ?_ ?_ ?_ ?_ ?_ ?_
  · simp
  · simp
  · simp
  · simp
  · simp
  · simp
  · rw [askedFor, askedFor, log_dropCallback, log_dropCallback]
    exact resemble.asked
  · rw [world_dropCallback, world_dropCallback]
    exact resemble.view

theorem box (callback? : Option Callback) :
    Resemble separation id id' (first.box callback?).2 (second.box callback?).2 := by
  cases callback? with
  | none => exact resemble
  | some callback => exact resemble.congr rfl rfl rfl rfl rfl rfl resemble.asked resemble.view

end Resemble

/-! ### Calls that ask nothing -/

theorem native_alike (separation : Separation library) {one other : Call}
    (same : one.anonymous = other.anonymous)
    (looks : one.opensInMemory = true ∨
      separation.view one.connection first.world = separation.view other.connection second.world)
    (silent : one.compiles = false) (conduct : Conduct library) :
    ∃ result world result' world',
      first.native conduct one = (result, first.called one result world) ∧
      second.native conduct other = (result', second.called other result' world') ∧
      HEq result result' ∧
      separation.view one.connection world = separation.view other.connection world' := by
  have alike := separation.alike same looks
  have returns := library.isReturn_run one first.world silent
  simp only [native]
  cases ran : library.run one first.world with
  | asks =>
    rw [ran] at returns
    cases returns
  | returns result world =>
    rw [ran] at alike
    cases ran' : library.run other second.world with
    | asks =>
      rw [ran'] at alike
      cases alike
    | returns result' world' =>
      rw [ran'] at alike
      cases alike with
      | returns same looks => exact ⟨result, world, result', world', rfl, rfl, same, looks⟩

/-- The same call about both. -/
theorem Resemble.call (resemble : Resemble separation id id' first second) (one other : Call)
    (same : one.anonymous = other.anonymous) (about : one.connection = id)
    (about' : other.connection = id') (silent : one.compiles = false) (conduct : Conduct library) :
    HEq (first.native conduct one).1 (second.native conduct other).1 ∧
      Resemble separation id id' (first.native conduct one).2 (second.native conduct other).2 := by
  subst about about'
  obtain ⟨result, world, result', world', called, called', told, looks⟩ :=
    native_alike separation same (.inr resemble.view) silent conduct
  rw [called, called']
  exact ⟨told, resemble.congr rfl rfl rfl rfl rfl rfl resemble.asked looks⟩

/-! ### Calls that ask -/

variable {answer : Callback → List (Option Callback × AuthorizationRequest) → Answer}

theorem Decides.consult_eq (decides : Decides conduct answer) (session : Session library)
    (id address : Nat) (question : Question) :
    session.consult conduct id address question =
      let asking := session.record
        (.asks id address (session.callback? address) (readQuestion question))
      match session.callback? address with
      | none => (Verdict.deny.code, asking)
      | some callback =>
        let code := (answer callback (asking.askedFor id)).verdict.code
        (code, asking.record (.answers id code)) := by
  unfold consult
  cases found : session.callback? address with
  | none => rfl
  | some callback =>
    have answered : (conduct callback (readQuestion question) (session.record
        (.asks id address (some callback) (readQuestion question)))).1 = _ := decides.answers rfl
    simp only [decides.leaves, answered]

theorem Decides.quiet_consult (decides : Decides conduct answer) (session : Session library)
    (id address : Nat) (question : Question) :
    Quiet session (session.consult conduct id address question).2 ∧
      (.asks id address (session.callback? address) (readQuestion question) :: session.log) <:+
        (session.consult conduct id address question).2.log := by
  rw [decides.consult_eq]
  cases session.callback? address with
  | none => exact ⟨⟨rfl, rfl, rfl, rfl⟩, List.suffix_refl _⟩
  | some callback => exact ⟨⟨rfl, rfl, rfl, rfl⟩, List.suffix_cons _ _⟩

theorem Decides.quiet_follow (decides : Decides conduct answer) (call : Call)
    (course : Course library.World call.Result) (session : Session library) :
    Quiet session (follow conduct call course session).2 ∧
      session.log <:+ (follow conduct call course session).2.log := by
  induction course generalizing session with
  | returns => exact ⟨⟨rfl, rfl, rfl, rfl⟩, List.suffix_cons _ _⟩
  | asks address question world resume ih =>
    obtain ⟨quiet, grows⟩ := decides.quiet_consult { session with world } call.connection address
      question
    obtain ⟨quiet', grows'⟩ := ih _ _ ({ session with world }.consult conduct call.connection address
      question).2
    have kept : Quiet session { session with world } := ⟨rfl, rfl, rfl, rfl⟩
    exact ⟨(kept.trans quiet).trans quiet', ((List.suffix_cons _ _).trans grows).trans grows'⟩

theorem Decides.quiet_native (decides : Decides conduct answer) (session : Session library)
    (call : Call) : Quiet session (session.native conduct call).2 ∧
      session.log <:+ (session.native conduct call).2.log := by
  obtain ⟨quiet, grows⟩ := decides.quiet_follow call (library.run call session.world)
    (session.record (.enters call))
  exact ⟨⟨quiet.connections, quiet.callbacks, quiet.connectionTokens, quiet.statementTokens⟩,
    (List.suffix_cons _ _).trans grows⟩

/-- What is kept in one session is registered there, and what is asked on the way to the other
session is what is registered. -/
structure Attested (before after : Session library) : Prop where
  custody : before.Custody
  registered : Throughout CallsRegistered after.log

theorem Attested.mono {before between after : Session library} (attested : Attested before after)
    (grows : between.log <:+ after.log) : Attested before between :=
  ⟨attested.custody, attested.registered.suffix grows⟩

theorem Attested.setState {before after : Session library} (attested : Attested before after)
    (id : StatementId) (state : StatementState) : Attested (before.setState id state) after :=
  ⟨attested.custody.calm (.of_update rfl rfl (fun _ => rfl) (fun _ => rfl) fun _ => rfl),
    attested.registered⟩

/-- A callback that is asked is the authorizer. -/
theorem Attested.callback?_eq (decides : Decides conduct answer) {session : Session library}
    {call : Call} {address : Nat} {question : Question} {world : library.World}
    {resume : Int32 → library.World → Course library.World call.Result}
    (attested :
      Attested session (follow conduct call (.asks address question world resume) session).2) :
    session.callback? address = session.authorizer? call.connection := by
  have asks := (decides.quiet_consult { session with world } call.connection address question).2
  have grows : _ <:+ (follow conduct call (.asks address question world resume) session).2.log :=
    (decides.quiet_follow call _ ({ session with world }.consult conduct call.connection address
      question).2).2
  have asked := (attested.registered.of_suffix (asks.trans grows)).2 _ rfl
  have kept := (attested.custody.registered call.connection).symm.trans asked
  rw [authorizer?, kept]
  rfl

namespace Twins

theorem consult (decides : Decides conduct answer) (twins : Twins separation id id' first second)
    {address address' : Nat} (asked : first.callback? address = first.authorizer? id)
    (asked' : second.callback? address' = second.authorizer? id') (question : Question) :
    (first.consult conduct id address question).1 =
        (second.consult conduct id' address' question).1 ∧
      Twins separation id id' (first.consult conduct id address question).2
        (second.consult conduct id' address' question).2 := by
  have same : first.callback? address = second.callback? address' :=
    asked.trans (twins.authorizer.trans asked'.symm)
  have heard (callback? : Option Callback) :
      (first.record (.asks id address callback? (readQuestion question))).askedFor id =
        (second.record (.asks id' address' callback? (readQuestion question))).askedFor id' := by
    simp only [askedFor, log_record, List.filterMap_cons, Event.askedFor?, if_true]
    exact congrArg _ twins.asked
  rw [decides.consult_eq, decides.consult_eq, same]
  cases second.callback? address' with
  | none =>
    exact ⟨rfl, twins.toResemble.congr rfl rfl rfl rfl rfl rfl (heard none) twins.view,
      twins.authorizer⟩
  | some callback =>
    dsimp only
    rw [heard (some callback)]
    exact ⟨rfl, twins.toResemble.congr rfl rfl rfl rfl rfl rfl (heard (some callback)) twins.view,
      twins.authorizer⟩

theorem follow (decides : Decides conduct answer) {one other : Call}
    {course : Course library.World one.Result} {course' : Course library.World other.Result}
    (alike : course.Alike (fun world world' =>
      separation.view one.connection world = separation.view other.connection world') course')
    (twins : Twins separation one.connection other.connection first second)
    (attested : Attested first (follow conduct one course first).2)
    (attested' : Attested second (Session.follow conduct other course' second).2) :
    HEq (Session.follow conduct one course first).1 (Session.follow conduct other course' second).1 ∧
      Twins separation one.connection other.connection (Session.follow conduct one course first).2
        (Session.follow conduct other course' second).2 := by
  induction alike generalizing first second with
  | returns result same =>
    exact ⟨result, twins.toResemble.congr rfl rfl rfl rfl rfl rfl twins.asked same, twins.authorizer⟩
  | @asks address address' question world world' resume resume' same goes ih =>
    have looking : Twins separation one.connection other.connection { first with world }
        { second with world := world' } :=
      ⟨twins.toResemble.congr rfl rfl rfl rfl rfl rfl twins.asked same, twins.authorizer⟩
    obtain ⟨told, heard⟩ := looking.consult decides (attested.callback?_eq decides)
      (attested'.callback?_eq decides) question
    have kept {session : Session library} (custody : session.Custody) (world : library.World)
        (id address : Nat) :
        ({ session with world }.consult conduct id address question).2.Custody := by
      rw [decides.consult_eq]
      split
      · exact custody.calm (.of_eq rfl rfl fun _ => rfl)
      · exact custody.calm (.of_eq rfl rfl fun _ => rfl)
    simp only [Session.follow, told] at attested attested' ⊢
    exact ih _ _ _ heard.view heard ⟨kept attested.custody _ _ _, attested.registered⟩
      ⟨kept attested'.custody _ _ _, attested'.registered⟩

/-- The same call about both, in the course of which callbacks are asked. -/
theorem call (decides : Decides conduct answer) (twins : Twins separation id id' first second)
    (one other : Call) (same : one.anonymous = other.anonymous) (about : one.connection = id)
    (about' : other.connection = id') (attested : Attested first (first.native conduct one).2)
    (attested' : Attested second (second.native conduct other).2) :
    HEq (first.native conduct one).1 (second.native conduct other).1 ∧
      Twins separation id id' (first.native conduct one).2 (second.native conduct other).2 := by
  subst about about'
  refine Twins.follow decides (separation.alike same (.inr twins.view))
    ⟨twins.toResemble.congr rfl rfl rfl rfl rfl rfl twins.asked twins.view, twins.authorizer⟩
    ⟨attested.custody.calm (.of_eq rfl rfl fun _ => rfl), attested.registered⟩
    ⟨attested'.custody.calm (.of_eq rfl rfl fun _ => rfl), attested'.registered⟩

end Twins

end Session

end SqliteBridge
