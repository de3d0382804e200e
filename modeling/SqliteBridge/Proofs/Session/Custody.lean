import SqliteBridge.Proofs.Session.Endings

/-! The addresses of authorizers along a run. An address is registered in the library for a
connection exactly as long as the connection keeps it, and as long as it is kept there is a
callback at it. -/
namespace SqliteBridge

open Native (Call Library)

namespace Event

/-- What an event registers for a connection: an address, or none. -/
def registers? (id : Nat) : Event → Option (Option Nat)
  | leaves (.setAuthorizer other address?) code =>
    if other = id ∧ code = 0 then some address? else none
  | _ => none

/-- The code of a registration. -/
def registration? : Event → Option Int32
  | leaves (.setAuthorizer _ _) code => some code
  | _ => none

/-- The connection that a callback is asked for, its address, and what is found there. -/
def asked? : Event → Option (Nat × Nat × Option Callback)
  | asks connection address callback? _ => some (connection, address, callback?)
  | _ => none

theorem registers?_enters (id : Nat) (call : Call) : registers? id (.enters call) = none := rfl

theorem registers?_leaves {call : Call} {result : call.Result} (leaves : call.LeavesHandles result)
    (id : Nat) : registers? id (.leaves call result) = none := by
  cases call with
  | setAuthorizer => exact leaves.elim
  | _ => rfl

theorem asked?_of_not_isConsultation {event : Event} (isCall : event.isConsultation = false) :
    event.asked? = none := by
  cases event <;> first | rfl | cases isCall

end Event

namespace Session

variable {library : Library} {motion : Motion library} {allowed : Act → Prop}
  {conduct : Conduct library} {session before after : Session library}

/-- The address that the record has as registered for a connection. -/
def registeredIn (id : Nat) (log : List Event) : Option Nat :=
  (log.findSome? (Event.registers? id)).join

/-- Registrations succeed, and the address that is called for a connection is the registered one. -/
def CallsRegistered (event : Event) (earlier : List Event) : Prop :=
  (∀ code ∈ event.registration?, code = 0) ∧
    ∀ asked ∈ event.asked?, registeredIn asked.1 earlier = some asked.2.1

instance (event : Event) (earlier : List Event) : Decidable (CallsRegistered event earlier) :=
  inferInstanceAs (Decidable
    ((∀ code ∈ event.registration?, code = 0) ∧
      ∀ asked ∈ event.asked?, registeredIn asked.1 earlier = some asked.2.1))

/-- The authorizer that a connection keeps. -/
def authorizer? (session : Session library) (id : Nat) : Option Callback :=
  (session.address? id).bind session.callback?

theorem registeredIn_cons (id : Nat) (event : Event) (log : List Event) :
    registeredIn id (event :: log) = (event.registers? id).getD (registeredIn id log) := by
  rw [registeredIn, List.findSome?_cons]
  cases event.registers? id <;> rfl

/-! ### Addresses and callbacks of edited sessions -/

theorem address?_congr {first second : Session library}
    (same : first.connections = second.connections) (id : Nat) :
    first.address? id = second.address? id := by
  rw [address?, address?, connection?_congr same]

theorem callback?_congr {first second : Session library} (same : first.callbacks = second.callbacks)
    (address : Nat) : first.callback? address = second.callback? address := by
  rw [callback?, callback?, same]

theorem address?_updateConnection (id : Nat) (edit : ConnectionHandle → ConnectionHandle)
    (keeps : ∀ connection, (edit connection).authorizer? = connection.authorizer?) (other : Nat) :
    (session.updateConnection id edit).address? other = session.address? other := by
  rw [address?, address?, connection?_updateConnection]
  split
  · cases session.connection? other <;> simp [keeps]
  · rfl

theorem address?_addConnection (path : String) (id : Nat) :
    (session.addConnection path).address? id = session.address? id := by
  rw [address?, connection?_addConnection]
  split
  · rename_i isNew
    rw [address?, connection?, List.getElem?_eq_none (Nat.le_of_eq isNew.symm)]
    rfl
  · rfl

theorem address?_setAddress {id : Nat} {connection : ConnectionHandle}
    (found : session.connection? id = some connection) (address? : Option Nat) (other : Nat) :
    (session.setAddress id address?).address? other =
      if id = other then address? else session.address? other := by
  rw [Session.address?, setAddress, connection?_updateConnection]
  by_cases same : id = other
  · subst same
    simp [found]
  · rw [if_neg same, if_neg same]
    rfl

theorem lt_length_of_callback? {address : Nat} {callback : Callback}
    (found : session.callback? address = some callback) : address < session.callbacks.length := by
  rw [callback?] at found
  cases known : session.callbacks[address]? with
  | none => rw [known] at found; cases found
  | some => exact (List.getElem?_eq_some_iff.mp known).1

/-- A new address is the next one. -/
theorem callback?_box (session : Session library) (callback? : Option Callback) (address : Nat) :
    (session.box callback?).2.callback? address =
      if address = session.callbacks.length then callback? else session.callback? address := by
  have beyond {address : Nat} (late : session.callbacks.length ≤ address) :
      session.callback? address = none := by
    rw [Session.callback?, List.getElem?_eq_none late]
    rfl
  cases callback? with
  | none =>
    split
    · rename_i isNext
      exact beyond (Nat.le_of_eq isNext.symm)
    · rfl
  | some callback =>
    simp only [box, Session.callback?]
    obtain old | rfl | late := Nat.lt_trichotomy address session.callbacks.length
    · rw [List.getElem?_append_left old, if_neg (Nat.ne_of_lt old)]
    · rw [List.getElem?_concat_length, if_pos rfl]
      rfl
    · rw [if_neg (Nat.ne_of_gt late), List.getElem?_eq_none (by rw [List.length_append]; exact late),
        List.getElem?_eq_none (Nat.le_of_lt late)]

theorem callback?_dropCallback (session : Session library) (address? : Option Nat) (address : Nat) :
    (session.dropCallback address?).callback? address =
      if address? = some address then none else session.callback? address := by
  cases address? with
  | none => rfl
  | some dropped =>
    simp only [dropCallback, Session.callback?, List.getElem?_set, Option.some.injEq]
    split
    · split <;> rfl
    · rfl

/-! ### What turns do to addresses -/

/-- Nothing is registered, and nothing is kept or dropped. -/
structure Calm (before after : Session library) : Prop where
  address?_eq (id : Nat) : after.address? id = before.address? id
  callback?_eq (address : Nat) : after.callback? address = before.callback? address
  length_eq : after.callbacks.length = before.callbacks.length
  registeredIn_eq (id : Nat) : registeredIn id after.log = registeredIn id before.log
  isClosed_of (id : Nat) (isClosed : after.isClosed id = true) : before.isClosed id = true

/-- A callback takes the place of that of an open connection, or nothing does. -/
structure Handover (target : Nat) (successor? : Option Callback) (before after : Session library) :
    Prop where
  isOpen : before.isClosed target = false
  address?_eq (id : Nat) : after.address? id =
    if target = id then successor?.map fun _ => before.callbacks.length else before.address? id
  callback?_eq (address : Nat) : after.callback? address =
    if before.address? target = some address then none
    else if address = before.callbacks.length then successor?
    else before.callback? address
  length_le : before.callbacks.length ≤ after.callbacks.length
  length_lt (isSome : successor?.isSome = true) : before.callbacks.length < after.callbacks.length
  registeredIn_eq (id : Nat) : registeredIn id after.log =
    if target = id then successor?.map fun _ => before.callbacks.length
    else registeredIn id before.log
  isClosed_of (id : Nat) (isClosed : after.isClosed id = true) :
    before.isClosed id = true ∨ (id = target ∧ successor? = none)

theorem Calm.of_eq (connections : after.connections = before.connections)
    (callbacks : after.callbacks = before.callbacks)
    (registered : ∀ id, registeredIn id after.log = registeredIn id before.log) :
    Calm before after :=
  ⟨address?_congr connections, callback?_congr callbacks, congrArg _ callbacks, registered,
    fun id isClosed => (isClosed_congr connections id).symm.trans isClosed⟩

/-- An edit of one connection that keeps the address and the flag. -/
theorem Calm.of_update {id : Nat} {edit : ConnectionHandle → ConnectionHandle}
    (connections : after.connections = before.connections.modify id edit)
    (callbacks : after.callbacks = before.callbacks)
    (registered : ∀ id, registeredIn id after.log = registeredIn id before.log)
    (address : ∀ connection, (edit connection).authorizer? = connection.authorizer?)
    (closed : ∀ connection, (edit connection).isClosed = connection.isClosed) :
    Calm before after := by
  have edited : after.connections = (before.updateConnection id edit).connections := connections
  refine ⟨fun other => ?_, callback?_congr callbacks, congrArg _ callbacks, registered,
    fun other isClosed => ?_⟩
  · rw [address?_congr edited, address?_updateConnection id edit address]
  · rw [isClosed_congr edited, before.isClosed_updateConnection id other edit closed] at isClosed
    exact isClosed

/-- The address of a new callback. -/
theorem box_address? (session : Session library) (callback? : Option Callback) :
    (session.box callback?).1 = callback?.map fun _ => session.callbacks.length := by
  cases callback? <;> rfl

theorem handover_of_authorizes {id : Nat} (isOpen : before.isClosed id = false)
    (callback? : Option Callback) (world : library.World) :
    Handover id callback? before
      ((((before.box callback?).2.called (.setAuthorizer id (before.box callback?).1) (0 : Int32)
        world).setAddress id (before.box callback?).1).dropCallback (before.address? id)) := by
  obtain ⟨connection, found, -⟩ := before.isClosed_eq_false_iff.mp isOpen
  have connections := connections_box before callback?
  have found' : ((before.box callback?).2.called (.setAuthorizer id (before.box callback?).1)
      (0 : Int32) world).connection? id = some connection :=
    (connection?_congr connections id).trans found
  refine ⟨isOpen, fun other => ?_, fun address => ?_, ?_, fun isSome => ?_, fun other => ?_,
    fun other isClosed => ?_⟩
  · rw [address?_congr (connections_dropCallback _ _), address?_setAddress found', box_address?]
    split
    · rfl
    · exact address?_congr connections other
  · rw [callback?_dropCallback]
    split
    · rfl
    · exact callback?_box before callback? address
  · cases callback? <;> cases before.address? id <;> simp [box, dropCallback, setAddress]
  · cases callback? with
    | none => cases isSome
    | some callback => cases before.address? id <;> simp [box, dropCallback, setAddress]
  · rw [log_dropCallback]
    refine (registeredIn_cons other (.leaves (.setAuthorizer id _) (0 : Int32)) _).trans ?_
    simp only [Event.registers?, and_true, box_address?]
    split
    · rfl
    · have boxed := congrArg (registeredIn other) (log_box before callback?)
      exact (registeredIn_cons other _ _).trans boxed
  · rw [isClosed_congr (connections_dropCallback _ _), isClosed_setAddress] at isClosed
    exact .inl ((isClosed_congr connections other).symm.trans isClosed)

theorem handover_of_closes {id : Nat} (isOpen : before.isClosed id = false) {unset : Int32}
    (success : unset = 0) (code : Int32) (between world : library.World) :
    Handover id none before
      (((((before.markClosed id).called (.setAuthorizer id none) unset between).called (.closeV2 id)
        code world).setAddress id none).dropCallback (before.address? id)) := by
  obtain ⟨connection, found, -⟩ := before.isClosed_eq_false_iff.mp isOpen
  have found' : (((before.markClosed id).called (.setAuthorizer id none) unset between).called
      (.closeV2 id) code world).connection? id = some { connection with isClosed := true } := by
    refine (before.connection?_updateConnection_self id _).trans ?_
    rw [found]
    rfl
  refine ⟨isOpen, fun other => ?_, fun address => ?_, ?_, nofun, fun other => ?_,
    fun other isClosed => ?_⟩
  · rw [address?_congr (connections_dropCallback _ _), address?_setAddress found']
    split
    · rfl
    · exact address?_updateConnection id (fun connection => { connection with isClosed := true })
        (fun _ => rfl) other
  · rw [callback?_dropCallback]
    split
    · rfl
    · exact callback?_box before none address
  · cases before.address? id <;> simp [dropCallback, setAddress, markClosed]
  · rw [log_dropCallback]
    refine (registeredIn_cons other (.leaves (.closeV2 id) code) _).trans
      ((registeredIn_cons other (.enters (.closeV2 id)) _).trans
        ((registeredIn_cons other (.leaves (.setAuthorizer id none) unset) _).trans ?_))
    simp only [Event.registers?, success, and_true]
    split <;> rfl
  · by_cases same : other = id
    · exact .inr ⟨same, rfl⟩
    · rw [isClosed_congr (connections_dropCallback _ _), isClosed_setAddress] at isClosed
      exact .inl ((isClosed_markClosed_of_ne same).symm.trans isClosed)

/-- A turn is calm about authorizers, or it sets one, or it closes a connection, or the library
declines an authorizer. -/
theorem Turn.authorizer_cases (turn : Turn motion allowed before after) :
    Calm before after ∨
    (∃ target successor?, Handover target successor? before after ∧
      allowed (.perform (.setAuthorizer target successor?))) ∨
    (∃ id unset code between world, Touched allowed id ∧ before.isClosed id = false ∧
      after = ((((before.markClosed id).called (.setAuthorizer id none) unset between).called
        (.closeV2 id) code world).setAddress id none).dropCallback (before.address? id)) ∨
    ∃ id callback? code bytes? between world, code ≠ 0 ∧
      after = (((before.box callback?).2.called (.setAuthorizer id (before.box callback?).1) code
        between).called (.errorMessage id) bytes? world).dropCallback (before.box callback?).1 := by
  cases turn with
  | enters | asks | answers | connectionToken | statementToken | disposesConnection
  | disposesStatement => exact .inl (.of_eq rfl rfl fun _ => rfl)
  | leaves call result world touched leaves =>
    refine .inl (.of_eq rfl rfl fun id => ?_)
    rw [log_returned, registeredIn_cons, Event.registers?_leaves leaves]
    rfl
  | steps | resets | destroys | prepares | releasesConnection | releasesStatement =>
    exact .inl (.of_update rfl rfl (fun _ => rfl) (fun _ => rfl) fun _ => rfl)
  | opens path flags opening opened attempt =>
    refine .inl ⟨fun id => ?_, callback?_congr attempt.callbacks, congrArg _ attempt.callbacks,
      fun id => ?_, fun id isClosed => ?_⟩
    · rw [address?_addConnection, address?_congr attempt.connections]
    · cases attempt <;> rfl
    · rw [isClosed_addConnection] at isClosed
      split at isClosed
      · cases isClosed
      · exact (isClosed_congr attempt.connections id).symm.trans isClosed
  | fails path flags opening opened attempt =>
    refine .inl (.of_eq attempt.connections attempt.callbacks fun id => ?_)
    cases attempt <;> rfl
  | authorizes id callback? world sets isOpen =>
    exact .inr (.inl ⟨id, callback?, handover_of_authorizes isOpen callback? world, sets⟩)
  | closes id unset code between world touched isOpen =>
    exact .inr (.inr (.inl ⟨id, unset, code, between, world, touched, isOpen, rfl⟩))
  | declines id callback? code bytes? between world touched isOpen failure =>
    exact .inr (.inr (.inr ⟨id, callback?, code, bytes?, between, world, failure, rfl⟩))

/-- Where registrations succeed, a turn is calm, or it sets an authorizer, or it closes a
connection. -/
theorem Turn.custody_cases (turn : Turn motion allowed before after)
    (registered : Throughout CallsRegistered after.log) :
    Calm before after ∨
    (∃ target successor?, Handover target successor? before after ∧
      allowed (.perform (.setAuthorizer target successor?))) ∨
    ∃ target, Handover target none before after ∧ after.isClosed target = true ∧
      target < after.connections.length := by
  obtain calm | set | ⟨id, unset, code, between, world, -, isOpen, rfl⟩ |
    ⟨id, callback?, code, bytes?, between, world, failure, rfl⟩ := turn.authorizer_cases
  · exact .inl calm
  · exact .inr (.inl set)
  · rw [log_dropCallback] at registered
    have success : unset = 0 := registered.2.2.1.1 unset rfl
    have isOld := lt_length_of_isClosed isOpen
    refine .inr (.inr ⟨id, handover_of_closes isOpen success code between world, ?_, ?_⟩)
    · rw [isClosed_congr (connections_dropCallback _ _), isClosed_setAddress]
      exact before.isClosed_markClosed id
    · simpa [setAddress, markClosed] using isOld
  · rw [log_dropCallback] at registered
    exact absurd (registered.2.2.1.1 code rfl) failure

/-! ### Custody -/

/-- What is registered is kept, and what is kept is there. -/
structure Custody (session : Session library) : Prop where
  registered (id : Nat) : registeredIn id session.log = session.address? id
  present {id address : Nat} (kept : session.address? id = some address) :
    ∃ callback, session.callback? address = some callback
  apart {id other address : Nat} (kept : session.address? id = some address)
    (kept' : session.address? other = some address) : id = other
  closed {id : Nat} (isClosed : session.isClosed id = true) : session.address? id = none

theorem Custody.lt_length (custody : session.Custody) {id address : Nat}
    (kept : session.address? id = some address) : address < session.callbacks.length :=
  let ⟨_, present⟩ := custody.present kept
  lt_length_of_callback? present

theorem Custody.calm (custody : before.Custody) (calm : Calm before after) : after.Custody where
  registered id := by rw [calm.registeredIn_eq, calm.address?_eq, custody.registered]
  present kept := by
    rw [calm.address?_eq] at kept
    rw [calm.callback?_eq]
    exact custody.present kept
  apart kept kept' := by
    rw [calm.address?_eq] at kept kept'
    exact custody.apart kept kept'
  closed isClosed := by
    rw [calm.address?_eq]
    exact custody.closed (calm.isClosed_of _ isClosed)

/-- The callback of a connection that keeps its address stays where it is. -/
theorem Custody.handover_callback? (custody : before.Custody) {target id address : Nat}
    {successor? : Option Callback} (handover : Handover target successor? before after)
    (different : target ≠ id) (kept : before.address? id = some address) :
    after.callback? address = before.callback? address := by
  have isOld := custody.lt_length kept
  rw [handover.callback?_eq, if_neg fun kept' => different (custody.apart kept' kept),
    if_neg (Nat.ne_of_lt isOld)]

theorem Custody.handover (custody : before.Custody) {target : Nat} {successor? : Option Callback}
    (handover : Handover target successor? before after) : after.Custody where
  registered id := by
    rw [handover.registeredIn_eq, handover.address?_eq, custody.registered]
  present {id address} kept := by
    rw [handover.address?_eq] at kept
    split at kept
    · obtain ⟨callback, isSuccessor, rfl⟩ := Option.map_eq_some_iff.mp kept
      refine ⟨callback, ?_⟩
      rw [handover.callback?_eq, if_neg fun kept' => Nat.lt_irrefl _ (custody.lt_length kept'),
        if_pos rfl, isSuccessor]
    · rename_i different
      rw [custody.handover_callback? handover different kept]
      exact custody.present kept
  apart {id other address} kept kept' := by
    have own {id other : Nat} (same : target = id) (different : target ≠ other)
        (kept : after.address? id = some address) (kept' : after.address? other = some address) :
        id = other := by
      rw [handover.address?_eq, if_pos same] at kept
      rw [handover.address?_eq, if_neg different] at kept'
      obtain ⟨callback, -, rfl⟩ := Option.map_eq_some_iff.mp kept
      exact absurd (custody.lt_length kept') (Nat.lt_irrefl _)
    by_cases same : target = id
    · by_cases same' : target = other
      · exact same.symm.trans same'
      · exact own same same' kept kept'
    · by_cases same' : target = other
      · exact (own same' same kept' kept).symm
      · rw [handover.address?_eq, if_neg same] at kept
        rw [handover.address?_eq, if_neg same'] at kept'
        exact custody.apart kept kept'
  closed {id} isClosed := by
    rw [handover.address?_eq]
    obtain isClosed | ⟨rfl, rfl⟩ := handover.isClosed_of id isClosed
    · have different : target ≠ id := by
        rintro rfl
        rw [handover.isOpen] at isClosed
        cases isClosed
      rw [if_neg different, custody.closed isClosed]
    · rw [if_pos rfl]
      rfl

theorem Turn.custody (turn : Turn motion allowed before after)
    (registered : Throughout CallsRegistered after.log) (custody : before.Custody) :
    after.Custody := by
  obtain calm | ⟨target, successor?, handover, -⟩ | ⟨target, handover, -⟩ :=
    turn.custody_cases registered
  · exact custody.calm calm
  · exact custody.handover handover
  · exact custody.handover handover

theorem Path.custody (path : Path motion allowed before after)
    (registered : Throughout CallsRegistered after.log) (custody : before.Custody) :
    after.Custody := by
  induction path with
  | refl => exact custody
  | tail _ turn ih => exact turn.custody registered (ih (registered.suffix turn.logGrows.suffix))

theorem custody_withCapacity (limit : Nat) : (withCapacity library limit).Custody where
  registered _ := rfl
  present kept := by cases kept
  apart kept := by cases kept
  closed _ := rfl

theorem IsReachable.custody (reachable : session.IsReachable)
    (registered : Throughout CallsRegistered session.log) : session.Custody := by
  obtain ⟨limit, evolves⟩ := reachable
  exact (evolves.path (.any library)).custody registered (custody_withCapacity limit)

/-! ### Callbacks that are asked -/

/-- A callback is asked for a connection only if the connection keeps it. -/
def AsksKept (session : Session library) (event : Event) : Prop :=
  ∀ asked ∈ event.asked?, session.address? asked.1 = some asked.2.1 ∧
    asked.2.2 = session.authorizer? asked.1 ∧ asked.2.2.isSome = true

theorem asksKept_of_not_isConsultation {event : Event} (isCall : event.isConsultation = false) :
    session.AsksKept event := by
  intro asked told
  rw [Event.asked?_of_not_isConsultation isCall] at told
  cases told

theorem Turn.asksKept (turn : Turn motion allowed before after)
    (registered : Throughout CallsRegistered after.log) (custody : before.Custody) :
    LogGrows before.AsksKept before after := by
  have silent {event : Event} (isCall : event.isConsultation = false) : before.AsksKept event :=
    asksKept_of_not_isConsultation isCall
  cases turn with
  | asks id address request world =>
    refine .cons .refl rfl ?_
    rintro asked ⟨⟩
    have kept : before.address? id = some address :=
      (custody.registered id).symm.trans (registered.1.2 _ rfl)
    obtain ⟨callback, present⟩ := custody.present kept
    refine ⟨kept, ?_, ?_⟩
    · rw [authorizer?, kept, Option.bind_some]
    · exact Option.isSome_iff_exists.mpr ⟨callback, present⟩
  | answers => exact .cons .refl rfl nofun
  | enters | leaves | steps | resets | prepares | destroys => exact .cons .refl rfl (silent rfl)
  | opens path flags opening opened attempt =>
    exact (attempt.logGrows.mono fun _ own => silent own.2).trans (.of_eq rfl)
  | fails path flags opening opened attempt =>
    exact attempt.logGrows.mono fun _ own => silent own.2
  | closes other unset code between world =>
    have marked : LogGrows before.AsksKept before (before.markClosed other) := .of_eq rfl
    have unregistered := marked.called (.setAuthorizer other none) unset between
      ⟨silent rfl, silent rfl⟩
    exact (unregistered.called (.closeV2 other) code world ⟨silent rfl, silent rfl⟩).trans
      (.of_eq (log_dropCallback _ _))
  | authorizes other callback? world =>
    have boxed : LogGrows before.AsksKept before (before.box callback?).2 :=
      .of_eq (log_box before callback?)
    exact (boxed.called (.setAuthorizer other _) (0 : Int32) world ⟨silent rfl, silent rfl⟩).trans
      (.of_eq (log_dropCallback _ _))
  | declines other callback? code bytes? between world =>
    have boxed : LogGrows before.AsksKept before (before.box callback?).2 :=
      .of_eq (log_box before callback?)
    have registered := boxed.called (.setAuthorizer other (before.box callback?).1) code between
      ⟨silent rfl, silent rfl⟩
    exact (registered.called (.errorMessage other) bytes? world ⟨silent rfl, silent rfl⟩).trans
      (.of_eq (log_dropCallback _ _))
  | connectionToken | statementToken | disposesConnection | disposesStatement => exact .refl
  | releasesConnection | releasesStatement => exact .of_eq rfl

end Session

end SqliteBridge
