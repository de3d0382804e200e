import SqliteBridge.Proofs.Session.Authorizers
import SqliteBridge.Proofs.Session.Separation
import SqliteBridge.Proofs.Session.Tokens

/-! Connections that nothing is done to. Whatever is done to other connections, what belongs to such
a connection is as it was: its handle and its statements, its tokens, its authorizer, what that was
asked, and what the library has of it. -/
namespace SqliteBridge

open Native (Call Library)

/-- What an event asks the callback of a connection. -/
def Event.askedFor? (id : Nat) : Event → Option (Option Callback × AuthorizationRequest)
  | asks connection _ callback? request =>
    if connection = id then some (callback?, request) else none
  | _ => none

theorem Event.askedFor?_of_ne {id : Nat} {event : Event} (apart : event.connection ≠ id) :
    event.askedFor? id = none := by
  cases event with
  | asks => exact if_neg apart
  | _ => rfl

namespace Session

variable {library : Library} {motion : Motion library} {separation : Separation library}
  {allowed : Act → Prop} {session before after : Session library} {id : Nat}

/-- What the callbacks of a connection were asked, the newest first. -/
def askedFor (session : Session library) (id : Nat) :
    List (Option Callback × AuthorizationRequest) :=
  session.log.filterMap (Event.askedFor? id)

/-! ### Addresses -/

/-- The addresses that connections keep were given out, each to one of them. -/
structure Boxed (session : Session library) : Prop where
  isOld {id address : Nat} (kept : session.address? id = some address) :
    address < session.callbacks.length
  apart {id other address : Nat} (kept : session.address? id = some address)
    (kept' : session.address? other = some address) : id = other

/-- No connection gets another address, and no callback is dropped but a new one. -/
structure Steady (before after : Session library) : Prop where
  address?_eq (id : Nat) : after.address? id = before.address? id
  callback?_eq {address : Nat} (isOld : address < before.callbacks.length) :
    after.callback? address = before.callback? address
  length_le : before.callbacks.length ≤ after.callbacks.length

/-- One connection gets another address, which is new, and the callback at its old one is
dropped. -/
structure Shift (target : Nat) (before after : Session library) : Prop where
  address?_eq {id : Nat} (other : id ≠ target) : after.address? id = before.address? id
  isNew {address : Nat} (kept : after.address? target = some address) :
    before.callbacks.length ≤ address ∧ address < after.callbacks.length
  callback?_eq {address : Nat} (isOld : address < before.callbacks.length)
    (other : before.address? target ≠ some address) :
    after.callback? address = before.callback? address
  length_le : before.callbacks.length ≤ after.callbacks.length

theorem Calm.steady (calm : Calm before after) : Steady before after :=
  ⟨calm.address?_eq, fun _ => calm.callback?_eq _, Nat.le_of_eq calm.length_eq.symm⟩

theorem Handover.shift {target : Nat} {successor? : Option Callback}
    (handover : Handover target successor? before after) : Shift target before after where
  address?_eq other := (handover.address?_eq _).trans (if_neg (Ne.symm other))
  isNew kept := by
    rw [handover.address?_eq, if_pos rfl] at kept
    obtain ⟨callback, isSuccessor, rfl⟩ := Option.map_eq_some_iff.mp kept
    exact ⟨Nat.le_refl _, handover.length_lt (isSuccessor ▸ rfl)⟩
  callback?_eq isOld other := by
    rw [handover.callback?_eq, if_neg other, if_neg (Nat.ne_of_lt isOld)]
  length_le := handover.length_le

theorem Shift.congr {target : Nat} {after' : Session library} (shift : Shift target before after)
    (connections : after'.connections = after.connections)
    (callbacks : after'.callbacks = after.callbacks) : Shift target before after' where
  address?_eq other := (address?_congr connections _).trans (shift.address?_eq other)
  isNew kept := callbacks ▸ shift.isNew ((address?_congr connections _).symm.trans kept)
  callback?_eq isOld other := (callback?_congr callbacks _).trans (shift.callback?_eq isOld other)
  length_le := callbacks ▸ shift.length_le

theorem Turn.shift_cases (turn : Turn motion allowed before after) :
    Steady before after ∨ ∃ target, Touched allowed target ∧ Shift target before after := by
  obtain calm | ⟨target, successor?, handover, sets⟩ |
    ⟨id, unset, code, between, world, touched, isOpen, rfl⟩ |
    ⟨id, callback?, code, bytes?, between, world, -, rfl⟩ := turn.authorizer_cases
  · exact .inl calm.steady
  · exact .inr ⟨target, ⟨_, sets, rfl⟩, handover.shift⟩
  · -- The code of the registration is on record and nowhere else.
    refine .inr ⟨id, touched, (handover_of_closes isOpen rfl code between world).shift.congr ?_ ?_⟩
    · rw [connections_dropCallback, connections_dropCallback]
      rfl
    · cases before.address? id <;> rfl
  · refine .inl ⟨address?_congr ?_, fun {address} isOld => ?_, ?_⟩
    · rw [connections_dropCallback]
      exact connections_box before callback?
    · rw [callback?_dropCallback, box_address?]
      have isOther : callback?.map (fun _ => before.callbacks.length) ≠ some address := by
        cases callback? with
        | none => exact nofun
        | some => exact fun same => Nat.ne_of_gt isOld (Option.some.inj same)
      rw [if_neg isOther]
      exact (callback?_box before callback? address).trans (if_neg (Nat.ne_of_lt isOld))
    · cases callback? <;> simp [box, dropCallback]

theorem Turn.boxed (turn : Turn motion allowed before after) (boxed : before.Boxed) :
    after.Boxed := by
  obtain steady | ⟨target, -, shift⟩ := turn.shift_cases
  · refine ⟨fun {id address} kept => ?_, fun {id other address} kept kept' => ?_⟩
    · rw [steady.address?_eq] at kept
      exact Nat.lt_of_lt_of_le (boxed.isOld kept) steady.length_le
    · rw [steady.address?_eq] at kept kept'
      exact boxed.apart kept kept'
  · have isOld {id address : Nat} (other : id ≠ target) (kept : after.address? id = some address) :
        address < before.callbacks.length := boxed.isOld ((shift.address?_eq other).symm.trans kept)
    refine ⟨fun {id address} kept => ?_, fun {id other address} kept kept' => ?_⟩
    · by_cases same : id = target
      · exact (shift.isNew (same ▸ kept)).2
      · exact Nat.lt_of_lt_of_le (isOld same kept) shift.length_le
    · by_cases same : id = target <;> by_cases same' : other = target
      · exact same.trans same'.symm
      · exact absurd (isOld same' kept') (Nat.not_lt.mpr (shift.isNew (same ▸ kept)).1)
      · exact absurd (isOld same kept) (Nat.not_lt.mpr (shift.isNew (same' ▸ kept')).1)
      · rw [shift.address?_eq same] at kept
        rw [shift.address?_eq same'] at kept'
        exact boxed.apart kept kept'

theorem Path.boxed (path : Path motion allowed before after) (boxed : before.Boxed) :
    after.Boxed := by
  induction path with
  | refl => exact boxed
  | tail _ turn ih => exact turn.boxed ih

theorem IsReachable.boxed (reachable : session.IsReachable) : session.Boxed := by
  obtain ⟨limit, evolves⟩ := reachable
  refine (evolves.path (.any library)).boxed ⟨fun kept => ?_, fun kept => ?_⟩
  · cases kept
  · cases kept

theorem Turn.authorizer?_eq (turn : Turn motion allowed before after) (boxed : before.Boxed)
    (untouched : ¬Touched allowed id) : after.authorizer? id = before.authorizer? id := by
  rw [authorizer?, authorizer?]
  obtain steady | ⟨target, touched, shift⟩ := turn.shift_cases
  · rw [steady.address?_eq]
    cases kept : before.address? id with
    | none => rfl
    | some address => exact steady.callback?_eq (boxed.isOld kept)
  · have other : id ≠ target := fun same => untouched (same ▸ touched)
    rw [shift.address?_eq other]
    cases kept : before.address? id with
    | none => rfl
    | some address =>
      exact shift.callback?_eq (boxed.isOld kept) fun kept' => other (boxed.apart kept kept')

/-! ### The record and the library -/

theorem Turn.askedFor_eq (turn : Turn motion allowed before after) (untouched : ¬Touched allowed id)
    (isOld : id < before.connections.length) : after.askedFor id = before.askedFor id := by
  obtain ⟨added, grown, touches⟩ := turn.logGrows
  have unasked : added.filterMap (Event.askedFor? id) = [] := by
    refine List.filterMap_eq_nil_iff.mpr fun event listed => Event.askedFor?_of_ne ?_
    rintro rfl
    rcases touches event listed with touched | isNext
    · exact untouched touched
    · exact Nat.ne_of_lt isOld isNext
  rw [askedFor, grown, List.filterMap_append, unasked]
  rfl

/-- A turn is at most one move, of a connection that it may touch or of the next one. -/
theorem Turn.moves (turn : Turn motion allowed before after) :
    after.world = before.world ∨
      ∃ id, (Touched allowed id ∨ id = before.connections.length) ∧
        motion.moves id before.world after.world := by
  cases turn with
  | enters | answers | destroys | connectionToken | statementToken | disposesConnection
  | disposesStatement | releasesConnection | releasesStatement => exact .inl rfl
  | leaves call _ _ touched _ moved => exact .inr ⟨_, .inl touched, moved⟩
  | asks connection _ _ _ touched moved => exact .inr ⟨_, .inl touched, moved⟩
  | steps id _ _ touched _ moved | resets id _ _ touched _ moved =>
    exact .inr ⟨_, .inl touched, moved⟩
  | prepares id _ _ _ touched _ _ _ _ moved => exact .inr ⟨_, .inl touched, moved⟩
  | opens path flags opening opened attempt success moved => exact .inr ⟨_, .inr rfl, moved⟩
  | fails path flags opening opened attempt failure moved => exact .inr ⟨_, .inr rfl, moved⟩
  | closes id _ _ _ _ touched _ moved =>
    rw [world_dropCallback]
    exact .inr ⟨id, .inl touched, moved⟩
  | authorizes id _ _ sets _ moved =>
    rw [world_dropCallback]
    exact .inr ⟨id, .inl ⟨_, sets, rfl⟩, moved⟩
  | declines id _ _ _ _ _ touched _ _ moved =>
    rw [world_dropCallback]
    exact .inr ⟨id, .inl touched, moved⟩

theorem Turn.view_eq (turn : Turn separation.motion allowed before after)
    (untouched : ¬Touched allowed id) (isOld : id < before.connections.length) :
    separation.view id after.world = separation.view id before.world := by
  obtain same | ⟨other, touched | isNext, moved⟩ := turn.moves
  · rw [same]
  · exact moved id fun same => untouched (same ▸ touched)
  · exact moved id (isNext ▸ Nat.ne_of_lt isOld)

/-! ### Bystanders -/

/-- A connection and all that belongs to it are as they were. -/
structure Untouched (separation : Separation library) (id : Nat) (before after : Session library) :
    Prop where
  handles : SameHandles id before after
  authorizer : after.authorizer? id = before.authorizer? id
  asked : after.askedFor id = before.askedFor id
  view : separation.view id after.world = separation.view id before.world

namespace Untouched

theorem refl : Untouched separation id session session := ⟨.refl, rfl, rfl, rfl⟩

theorem trans {first second third : Session library}
    (early : Untouched separation id first second) (late : Untouched separation id second third) :
    Untouched separation id first third :=
  ⟨early.handles.trans late.handles, late.authorizer.trans early.authorizer,
    late.asked.trans early.asked, late.view.trans early.view⟩

end Untouched

/-- A path on which nothing is done to a connection. -/
theorem Path.untouched (path : Path separation.motion allowed before after) (boxed : before.Boxed)
    (untouched : ¬Touched allowed id) (isOld : id < before.connections.length) :
    Untouched separation id before after := by
  induction path with
  | refl => exact .refl
  | @tail middle after path turn ih =>
    have isOld' := (Path.sameHandles path untouched isOld).2
    exact ih.trans ⟨turn.sameHandles untouched isOld',
      turn.authorizer?_eq (Path.boxed path boxed) untouched, turn.askedFor_eq untouched isOld',
      turn.view_eq untouched isOld'⟩

/-! ### Connections that are not there yet -/

/-- Of the connections that were not opened yet nothing is there. -/
structure Vacant (session : Session library) : Prop where
  token {id : Nat} (isNext : session.connections.length ≤ id) :
    session.connectionTokens.reference id = .unset
  statementToken {id : Nat} (isNext : session.connections.length ≤ id) (index : Nat) :
    session.statementTokens.reference ⟨id, index⟩ = .unset
  asked {id : Nat} (isNext : session.connections.length ≤ id) : session.askedFor id = []

theorem vacant_withCapacity (limit : Nat) : (withCapacity library limit).Vacant :=
  ⟨fun _ => rfl, fun _ _ => rfl, fun _ => rfl⟩

theorem lt_length_of_address? {address : Nat} (kept : session.address? id = some address) :
    id < session.connections.length := by
  rw [address?] at kept
  obtain ⟨connection, found, -⟩ := Option.bind_eq_some_iff.mp kept
  exact lt_length_of_connection? found

/-- Nothing is asked for a connection that is not there yet. -/
theorem Turn.askedFor_eq_of_isNext (turn : Turn motion allowed before after)
    (custody : before.Custody) (registered : Throughout CallsRegistered after.log)
    (isNext : before.connections.length ≤ id) : after.askedFor id = before.askedFor id := by
  obtain ⟨added, grown, kept⟩ := turn.asksKept registered custody
  have unasked : added.filterMap (Event.askedFor? id) = [] := by
    refine List.filterMap_eq_nil_iff.mpr fun event listed => ?_
    cases event with
    | asks connection address callback? request =>
      refine if_neg fun same => ?_
      have isOld := lt_length_of_address? (kept _ listed _ rfl).1
      exact Nat.not_lt.mpr isNext (same ▸ isOld)
    | _ => rfl
  rw [askedFor, grown, List.filterMap_append, unasked]
  rfl

theorem Path.vacant (path : Path motion allowed before after) (vacant : before.Vacant)
    (custody : before.Custody) (registered : Throughout CallsRegistered after.log)
    (touched : ∀ id, Touched allowed id → id < before.connections.length) : after.Vacant := by
  induction path with
  | refl => exact vacant
  | @tail middle after path turn ih =>
    have registered' := registered.suffix turn.logGrows.suffix
    have vacant := ih registered'
    have isNext {id : Nat} (isNext : after.connections.length ≤ id) :
        middle.connections.length ≤ id := Nat.le_trans turn.length_le isNext
    have untouched {id : Nat} (isNext : middle.connections.length ≤ id) : ¬Touched allowed id :=
      fun isTouched =>
        Nat.not_lt.mpr (Nat.le_trans (Path.length_le path) isNext) (touched id isTouched)
    refine ⟨fun later => ?_, fun later index => ?_, fun later => ?_⟩
    · exact (turn.references_eq (untouched (isNext later))).1.trans (vacant.token (isNext later))
    · exact ((turn.references_eq (untouched (isNext later))).2 index).trans
        (vacant.statementToken (isNext later) index)
    · exact (turn.askedFor_eq_of_isNext (Path.custody path registered' custody) registered
        (isNext later)).trans (vacant.asked (isNext later))

end Session

end SqliteBridge
