import SqliteBridge.Native.Scripted
import SqliteBridge.Proofs.Session.Custody
import SqliteBridge.Proofs.Session.Steps

/-! The authorizer that the library asks is the one that the connection keeps, whichever acts are
done, and a callback that was replaced or removed is not asked again. A callback that is aborted
denies. -/
namespace SqliteBridge

open Native (Call Course Library)

variable {library : Library}

/-- The callbacks that deny what these leave without a decision. -/
def Conduct.denying (conduct : Conduct library) : Conduct library := fun callback request session =>
  match conduct callback request session with
  | (.aborted, session) => (.decided .deny, session)
  | (.decided verdict, session) => (.decided verdict, session)

namespace Session

variable {motion : Motion library} {allowed : Act → Prop} {conduct : Conduct library}
  {session before after : Session library} {id : Nat}

/-! ### Callbacks that are aborted -/

theorem consult_denying (conduct : Conduct library) (connection address : Nat)
    (question : Native.Question) (session : Session library) :
    session.consult conduct.denying connection address question =
      session.consult conduct connection address question := by
  unfold consult
  cases session.callback? address with
  | none => rfl
  | some callback =>
    simp only [Conduct.denying]
    rcases conduct callback (readQuestion question)
      (session.record (.asks connection address (some callback) (readQuestion question))) with
      ⟨verdict | _, later⟩
    · rfl
    · rfl

theorem follow_denying (conduct : Conduct library) (call : Call)
    (course : Course library.World call.Result) (session : Session library) :
    follow conduct.denying call course session = follow conduct call course session := by
  induction course generalizing session with
  | returns => rfl
  | asks address question world resume ih =>
    simp only [follow, consult_denying]
    exact ih _ _ _

theorem native_denying (conduct : Conduct library) : native conduct.denying = native conduct :=
  funext fun _ => funext fun call => follow_denying conduct call _ _

theorem bindInput_denying (conduct : Conduct library) :
    bindInput conduct.denying = bindInput conduct := by
  funext session id number input
  unfold bindInput bindValue bindText bindBlob
  rw [native_denying]

theorem readCell_denying (conduct : Conduct library) :
    readCell conduct.denying = readCell conduct := by
  funext session id column reading
  cases reading with
  | columnType | isNull | int | long | double => unfold readCell; rw [native_denying]
  | text => unfold readCell readText; rw [native_denying]
  | blob => unfold readCell readBlob; rw [native_denying]
  | value => unfold readCell readValue readText readBlob; rw [native_denying]

/-- Whatever is asked, it makes no difference whether a callback is aborted or denies. -/
theorem perform_denying (conduct : Conduct library) (session : Session library) (request : Request) :
    session.perform conduct.denying request = session.perform conduct request := by
  cases request with
  | openWith => unfold perform openWith; rw [native_denying]
  | close => unfold perform close closeNative; rw [native_denying]
  | prepare => unfold perform prepare fail lastError; rw [native_denying]
  | errorMessage => unfold perform errorMessage; rw [native_denying]
  | errorCode => unfold perform errorCode; rw [native_denying]
  | exec => unfold perform exec fail lastError; rw [native_denying]
  | changes => unfold perform changes; rw [native_denying]
  | lastInsertedId => unfold perform lastInsertedId; rw [native_denying]
  | setAuthorizer => unfold perform setAuthorizer lastError; rw [native_denying]
  | step => unfold perform step fail lastError; rw [native_denying]
  | reset => unfold perform reset check fail lastError; rw [native_denying]
  | finalize => unfold perform finalize check fail lastError; rw [native_denying]
  | clearBindings => unfold perform clearBindings check fail lastError; rw [native_denying]
  | parameterCount => unfold perform parameterCount; rw [native_denying]
  | bind => unfold perform bind check fail lastError; rw [native_denying, bindInput_denying]
  | columnCount => unfold perform columnCount; rw [native_denying]
  | columnName => unfold perform columnName; rw [native_denying]
  | column => unfold perform column; rw [readCell_denying]
  | describe | version => rfl

/-! ### One connection along a run -/

theorem Calm.authorizer?_eq (calm : Calm before after) (id : Nat) :
    after.authorizer? id = before.authorizer? id := by
  rw [authorizer?, authorizer?, calm.address?_eq, funext calm.callback?_eq]

/-- A connection keeps its authorizer when that of another is replaced. -/
theorem Custody.handover_authorizer? (custody : before.Custody) {target : Nat}
    {successor? : Option Callback} (handover : Handover target successor? before after)
    (different : target ≠ id) : after.authorizer? id = before.authorizer? id := by
  rw [authorizer?, authorizer?, handover.address?_eq, if_neg different]
  cases kept : before.address? id with
  | none => rfl
  | some address => exact custody.handover_callback? handover different kept

/-- The authorizer after a handover is the successor. -/
theorem Custody.authorizer?_of_handover (custody : before.Custody) {successor? : Option Callback}
    (handover : Handover id successor? before after) : after.authorizer? id = successor? := by
  rw [authorizer?, handover.address?_eq, if_pos rfl]
  cases successor? with
  | none => rfl
  | some callback =>
    have isNew : before.address? id ≠ some before.callbacks.length := fun kept =>
      Nat.lt_irrefl _ (custody.lt_length kept)
    exact (handover.callback?_eq _).trans ((if_neg isNew).trans (if_pos rfl))

/-- Only the authorizer of the connection is asked for it, and it is there. -/
def AsksOf (session : Session library) (id : Nat) (event : Event) : Prop :=
  ∀ address callback?, event.asked? = some (id, address, callback?) →
    callback?.isSome = true ∧ callback? = session.authorizer? id

/-- An authorizer that nothing sets is the one that is asked, and it stays until the connection is
closed. -/
theorem Path.authorizer?_kept (path : Path motion allowed before after)
    (unset : ∀ callback?, ¬allowed (.perform (.setAuthorizer id callback?)))
    (registered : Throughout CallsRegistered after.log) (custody : before.Custody) :
    LogGrows (before.AsksOf id) before after ∧
      (after.authorizer? id = before.authorizer? id ∨
        (after.isClosed id = true ∧ id < after.connections.length)) := by
  induction path with
  | refl => exact ⟨.refl, .inl rfl⟩
  | @tail middle after path turn ih =>
    have earlier := registered.suffix turn.logGrows.suffix
    have custody' : middle.Custody := Path.custody path earlier custody
    obtain ⟨grows, kept⟩ := ih earlier
    refine ⟨grows.trans ((turn.asksKept registered custody').mono ?_), ?_⟩
    · intro event asks address callback? told
      obtain ⟨present, same, isSome⟩ := asks _ told
      refine ⟨isSome, ?_⟩
      obtain authorizer | ⟨isClosed, -⟩ := kept
      · exact same.trans authorizer
      · rw [custody'.closed isClosed] at present
        cases present
    · obtain authorizer | ⟨isClosed, isOld⟩ := kept
      · obtain calm | ⟨target, successor?, handover, sets⟩ | ⟨target, handover, isClosed, isOld⟩ :=
          turn.custody_cases registered
        · exact .inl ((calm.authorizer?_eq id).trans authorizer)
        · have different : target ≠ id := fun same => unset successor? (same ▸ sets)
          exact .inl ((custody'.handover_authorizer? handover different).trans authorizer)
        · by_cases same : target = id
          · exact .inr (same ▸ ⟨isClosed, isOld⟩)
          · exact .inl ((custody'.handover_authorizer? handover same).trans authorizer)
      · refine .inr ⟨?_, Nat.lt_of_lt_of_le isOld turn.length_le⟩
        exact (turn.isClosed_cases isOld).elim (fun same => same.trans isClosed) fun closed => closed

/-! ### Addresses that were given up -/

/-- An address at which there was a callback and is none any more. -/
structure Retired (session : Session library) (address : Nat) : Prop where
  isEmpty : session.callback? address = none
  isOld : address < session.callbacks.length

theorem Turn.retired (turn : Turn motion allowed before after)
    (registered : Throughout CallsRegistered after.log) {address : Nat}
    (retired : before.Retired address) : after.Retired address := by
  have handed {target : Nat} {successor? : Option Callback}
      (handover : Handover target successor? before after) : after.Retired address := by
    refine ⟨?_, Nat.lt_of_lt_of_le retired.isOld handover.length_le⟩
    rw [handover.callback?_eq, if_neg (Nat.ne_of_lt retired.isOld), retired.isEmpty, ite_self]
  obtain calm | ⟨target, successor?, handover, -⟩ | ⟨target, handover, -⟩ :=
    turn.custody_cases registered
  · exact ⟨(calm.callback?_eq address).trans retired.isEmpty, calm.length_eq ▸ retired.isOld⟩
  · exact handed handover
  · exact handed handover

/-- An address that was given up is not called again. -/
theorem Path.retired (path : Path motion allowed before after)
    (registered : Throughout CallsRegistered after.log) (custody : before.Custody) {address : Nat}
    (retired : before.Retired address) :
    after.Retired address ∧
      LogGrows (fun event => ∀ asked ∈ event.asked?, asked.2.1 ≠ address) before after := by
  induction path with
  | refl => exact ⟨retired, .refl⟩
  | @tail middle after path turn ih =>
    have earlier := registered.suffix turn.logGrows.suffix
    have custody' : middle.Custody := Path.custody path earlier custody
    obtain ⟨retired', grows⟩ := ih earlier
    refine ⟨turn.retired registered retired', grows.trans ?_⟩
    refine (turn.asksKept registered custody').mono fun event asks asked told called => ?_
    obtain ⟨kept, -⟩ := asks asked told
    obtain ⟨callback, present⟩ := custody'.present kept
    rw [called, retired'.isEmpty] at present
    cases present

/-- A connection gives up an address for good. -/
theorem Path.address?_cases (path : Path motion allowed before after)
    (registered : Throughout CallsRegistered after.log) (custody : before.Custody) {address : Nat}
    (kept : before.address? id = some address) :
    after.address? id = some address ∨ after.Retired address := by
  induction path with
  | refl => exact .inl kept
  | @tail middle after path turn ih =>
    have earlier := registered.suffix turn.logGrows.suffix
    have custody' : middle.Custody := Path.custody path earlier custody
    obtain kept' | retired := ih earlier
    · have isOld := custody'.lt_length kept'
      have handed {target : Nat} {successor? : Option Callback}
          (handover : Handover target successor? middle after) :
          after.address? id = some address ∨ after.Retired address := by
        by_cases same : target = id
        · subst same
          refine .inr ⟨?_, Nat.lt_of_lt_of_le isOld handover.length_le⟩
          rw [handover.callback?_eq, if_pos kept']
        · rw [handover.address?_eq, if_neg same]
          exact .inl kept'
      obtain calm | ⟨target, successor?, handover, -⟩ | ⟨target, handover, -⟩ :=
        turn.custody_cases registered
      · exact .inl ((calm.address?_eq id).trans kept')
      · exact handed handover
      · exact handed handover
    · exact .inr (turn.retired registered retired)

/-! ### Setting an authorizer -/

theorem setAuthorizer_ok (custody : session.Custody) (conduct : Conduct library)
    (isOpen : session.isClosed id = false) (callback? : Option Callback)
    (registered : Throughout CallsRegistered (session.setAuthorizer conduct id callback?).2.log) :
    (session.setAuthorizer conduct id callback?).1 = .ok () ∧
      (session.setAuthorizer conduct id callback?).2.authorizer? id = callback? := by
  obtain ⟨connection, found, -, passed⟩ := whileOpen_of_isOpen isOpen
  obtain ⟨code, world, -, called⟩ := native_of_compiles_eq_false (.any library)
    (.setAuthorizer id (session.box callback?).1) rfl conduct (session.box callback?).2
  have address : session.address? id = connection.authorizer? := by
    rw [address?, found]
    rfl
  rw [setAuthorizer, passed] at registered ⊢
  simp only [called] at registered ⊢
  split at registered
  · rename_i success
    subst success
    rw [if_pos rfl, ← address]
    exact ⟨rfl, custody.authorizer?_of_handover (handover_of_authorizes isOpen callback? world)⟩
  · rename_i failure
    -- The record has the failure, be the message asked for or not.
    obtain kept | ⟨bytes?, later, -, told⟩ := lastError_cases (.any library) conduct
      ((session.box callback?).2.called (.setAuthorizer id (session.box callback?).1) code world)
      id code
    · rw [log_dropCallback, kept] at registered
      exact absurd (registered.1.1 code rfl) failure
    · rw [log_dropCallback, told] at registered
      exact absurd (registered.2.2.1.1 code rfl) failure

/-! ### Authorizers -/

/-- How the authorizer of a connection is kept, set, asked and given up. -/
structure Guarded (conduct : Conduct library) (session : Session library) (id : Nat) : Prop where
  /-- The library has what the connection keeps. -/
  registered : registeredIn id session.log = session.address? id
  present (address : Nat) (kept : session.address? id = some address) :
    (session.authorizer? id).isSome = true
  /-- A closed connection has none and takes none. -/
  closed (isClosed : session.isClosed id = true) :
    session.address? id = none ∧
      ∀ callback?, session.Refuses conduct (.setAuthorizer id callback?)
  sets (isOpen : session.isClosed id = false) (callback? : Option Callback)
    (registered : Throughout CallsRegistered (session.setAuthorizer conduct id callback?).2.log) :
    (session.setAuthorizer conduct id callback?).1 = .ok () ∧
      (session.setAuthorizer conduct id callback?).2.authorizer? id = callback?
  /-- At every point of a run, also in the middle of a call, the callback at the registered address
  is the one that is kept. It is asked what the library asks. -/
  asked (during : Session library) (path : Path (.any library) (fun _ => True) session during)
    (registered : Throughout CallsRegistered during.log) (address : Nat)
    (called : registeredIn id during.log = some address) (question : Native.Question) :
    ∃ callback, during.authorizer? id = some callback ∧
      during.consult conduct id address question =
        let request := ⟨question.action, ownedText question.first?, ownedText question.second?,
          ownedText question.third?, ownedText question.fourth?⟩
        let answered := conduct callback request
          (during.record (.asks id address (some callback) request))
        (answered.1.verdict.code, answered.2.record (.answers id answered.1.verdict.code))
  /-- Until another is set, no other is asked, and only closing ends it. -/
  kept (after : Session library)
    (evolves : Evolves (fun act => ∀ callback?, act ≠ .perform (.setAuthorizer id callback?))
      session after)
    (registered : Throughout CallsRegistered after.log) :
    LogGrows (session.AsksOf id) session after ∧
      (after.authorizer? id = session.authorizer? id ∨ after.isClosed id = true)
  /-- Once it is replaced, removed or closed away, it is dropped and not asked again. -/
  replaced (after : Session library) (address : Nat) (kept : session.address? id = some address)
    (evolves : Evolves (fun _ => True) session after)
    (registered : Throughout CallsRegistered after.log)
    (isReplaced : after.address? id ≠ some address) :
    after.callback? address = none ∧
      ∀ later, Evolves (fun _ => True) after later → Throughout CallsRegistered later.log →
        LogGrows (fun event => ∀ asked ∈ event.asked?, asked.2.1 ≠ address) after later
  aborted (request : Request) :
    session.perform conduct.denying request = session.perform conduct request

/-- Whatever was done before, the authorizer that is asked is the one that the connection keeps. -/
theorem authorizer_guarded (reachable : session.IsReachable)
    (registered : Throughout CallsRegistered session.log) (conduct : Conduct library) (id : Nat) :
    Guarded conduct session id := by
  have custody := reachable.custody registered
  refine ⟨custody.registered id, fun address kept => ?_, fun isClosed => ?_,
    setAuthorizer_ok custody conduct, fun during path registered address called question => ?_,
    fun after evolves registered => ?_,
    fun after address kept evolves registered isReplaced => ?_, perform_denying conduct session⟩
  · obtain ⟨callback, present⟩ := custody.present kept
    rw [authorizer?, kept, Option.bind_some, present]
    rfl
  · exact ⟨custody.closed isClosed, fun callback? => refuses_of_isClosed rfl isClosed⟩
  · have custody : during.Custody := path.custody registered custody
    have kept := (custody.registered id).symm.trans called
    obtain ⟨callback, present⟩ := custody.present kept
    refine ⟨callback, ?_, ?_⟩
    · rw [authorizer?, kept, Option.bind_some, present]
    · simp only [consult, present]
      rfl
  · obtain ⟨grows, kept⟩ := (evolves.path (.any library)).authorizer?_kept
      (fun callback? unset => unset callback? rfl) registered custody
    exact ⟨grows, kept.imp_right And.left⟩
  · have path := evolves.path (.any library)
    have custody' := path.custody registered custody
    have retired := (path.address?_cases registered custody kept).resolve_left isReplaced
    refine ⟨retired.isEmpty, fun later evolves registered => ?_⟩
    exact ((evolves.path (.any library)).retired registered custody' retired).2

/-- A library that asks the registered callback before it compiles a text, and returns the code of
the answer. -/
def asking : Library where
  World := Option Nat
  start := none
  run call registered :=
    match call with
    | .setAuthorizer _ address? => .returns (0 : Int32) address?
    | .prepareV2 id sql =>
      match registered with
      | some address =>
        .asks address ⟨21, some sql.toUTF8, none, none, none⟩ registered fun code registered =>
          .returns ⟨code, true⟩ registered
      | none => .returns (Call.prepareV2 id sql).uneventful registered
    | call => .returns call.uneventful registered
  isReturn_run call registered silent := by
    cases call <;> first | rfl | cases silent
  errorString _ := none
  version := .empty

/-- An authorizer that is aborted, and another in its place: the first denies, the second is asked
what the library asks. -/
theorem authorizer_guarded_replaced :
    let rules : List AuthorizationRules := [⟨[], .aborted⟩, ⟨[], .decided .allow⟩]
    let session := (withCapacity asking 1).runAll rules
      [.perform (.openWith .inMemory), .perform (.setAuthorizer 0 (some 0)),
        .perform (.prepare 0 "a"), .perform (.setAuthorizer 0 (some 1)), .perform (.prepare 0 "b")]
    Guarded (.byRules rules) session 0 ∧
      session.consultations =
        [(0, ⟨21, some "a", none, none, none⟩), (1, ⟨21, some "b", none, none, none⟩)] ∧
      session.callbacks = [none, some 1] ∧ session.state? ⟨0, 0⟩ = some .prepared := by
  intro rules session
  exact ⟨authorizer_guarded (isReachable_runAll 1 rules _) (by decide +kernel) _ 0, by decide +kernel,
    by decide +kernel, by decide +kernel⟩

end Session

end SqliteBridge
