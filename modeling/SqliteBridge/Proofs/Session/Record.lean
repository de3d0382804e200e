import SqliteBridge.Proofs.Session.Paths

/-! The record tells the states. What was said last about a statement is the state that its handle
has, and what was made and not given back is what the handles have open. -/
namespace SqliteBridge

open Native (Call Library)

/-- What the library makes and takes back. -/
inductive Native.Object where
  | connection (id : Nat)
  | statement (id : StatementId)
deriving DecidableEq

/-- The object that a call is made on. -/
def Native.Call.object? : Call → Option Native.Object
  | openV2 _ _ _ => none
  | free _ _ => none
  | call => some ((call.statement?.map .statement).getD (.connection call.connection))

inductive Life where
  | made
  | released
deriving DecidableEq

namespace Event

/-- The state that an event gives a statement. -/
def newState? (id : StatementId) : Event → Option StatementState
  | leaves (.prepareV2 made _) preparation =>
    if made = id ∧ preparation.code = 0 ∧ preparation.isStatement = true then some .prepared
    else none
  | leaves (.step other) code => if other = id then some (Session.stateAfterStep code) else none
  | leaves (.reset other) _ => if other = id then some .prepared else none
  | enters (.finalize other) => if other = id then some .finalized else none
  | _ => none

/-- Whether an event makes an object or gives it back. A failed attempt to open can make one. -/
def life? (object : Native.Object) : Event → Option Life
  | leaves (.openV2 made _ _) opening =>
    if .connection made = object ∧ (opening.code = 0 ∨ opening.isHalfOpen = true) then some .made
    else none
  | leaves (.prepareV2 made _) preparation =>
    if .statement made = object ∧ preparation.code = 0 ∧ preparation.isStatement = true then
      some .made
    else none
  | enters (.close id) => if .connection id = object then some .released else none
  | enters (.closeV2 id) => if .connection id = object then some .released else none
  | enters (.finalize id) => if .statement id = object then some .released else none
  | _ => none

/-- Whether an event is about a callback that is asked. -/
def isConsultation : Event → Bool
  | asks _ _ _ _ => true
  | answers _ _ => true
  | _ => false

theorem newState?_enters {call : Call} (isUse : call.isUse = true) (id : StatementId) :
    newState? id (.enters call) = none := by
  cases call <;> first | rfl | contradiction

theorem life?_enters {call : Call} (isUse : call.isUse = true) (object : Native.Object) :
    life? object (.enters call) = none := by
  cases call <;> first | rfl | contradiction

theorem newState?_leaves {call : Call} {result : call.Result} (leaves : call.LeavesHandles result)
    (id : StatementId) : newState? id (.leaves call result) = none := by
  cases call with
  | step | reset => exact leaves.elim
  | prepareV2 => exact if_neg fun success => leaves success.2
  | _ => rfl

theorem life?_leaves {call : Call} {result : call.Result} (leaves : call.LeavesHandles result)
    (object : Native.Object) : life? object (.leaves call result) = none := by
  cases call with
  | openV2 => exact leaves.elim
  | prepareV2 => exact if_neg fun success => leaves success.2
  | _ => rfl

end Event

namespace Session

variable {library : Library} {motion : Motion library} {allowed : Act → Prop}
  {session before after : Session library}

/-- What holds of the content of an option is decided by a look at it. There are types all values of
which could be tried instead, and most are too large for that. -/
instance (priority := 1100) decidableForallContent {α : Type} {p : α → Prop} [DecidablePred p]
    (content? : Option α) : Decidable (∀ content ∈ content?, p content) :=
  Option.decidableForallMem content?

/-- A law that every event of a record obeys, in view of the events before it. -/
def Throughout (law : Event → List Event → Prop) : List Event → Prop
  | [] => True
  | event :: earlier => law event earlier ∧ Throughout law earlier

instance Throughout.decidable (law : Event → List Event → Prop)
    [∀ event earlier, Decidable (law event earlier)] : ∀ log, Decidable (Throughout law log)
  | [] => inferInstanceAs (Decidable True)
  | event :: earlier =>
    have := decidable law earlier
    inferInstanceAs (Decidable (law event earlier ∧ Throughout law earlier))

theorem Throughout.of_suffix {law : Event → List Event → Prop} {event : Event}
    {earlier log : List Event} (obeyed : Throughout law log) (suffix : (event :: earlier) <:+ log) :
    law event earlier := by
  induction log with
  | nil => cases List.suffix_nil.mp suffix
  | cons last log ih =>
    obtain same | suffix := List.suffix_cons_iff.mp suffix
    · cases same
      exact obeyed.1
    · exact ih obeyed.2 suffix

theorem Throughout.suffix {law : Event → List Event → Prop} {earlier log : List Event}
    (obeyed : Throughout law log) (suffix : earlier <:+ log) : Throughout law earlier := by
  induction log with
  | nil =>
    cases List.suffix_nil.mp suffix
    trivial
  | cons last log ih =>
    obtain rfl | suffix := List.suffix_cons_iff.mp suffix
    · exact obeyed
    · exact ih obeyed.2 suffix

/-- The state that the record has a statement in. -/
def stateIn (id : StatementId) (log : List Event) : Option StatementState :=
  log.findSome? (Event.newState? id)

/-- Whether the record has an object that was made and not given back. -/
def isThereIn (object : Native.Object) (log : List Event) : Bool :=
  log.findSome? (Event.life? object) = some .made

/-- Whether an object is there that a handle has open. -/
def has (session : Session library) : Native.Object → Bool
  | .connection id => !session.isClosed id
  | .statement id => !session.isFinalized id

/-- The state of a statement, also of a finalized one. -/
def state? (session : Session library) (id : StatementId) : Option StatementState :=
  (session.statement? id).map StatementHandle.state

theorem isFinalized_eq (session : Session library) (id : StatementId) :
    session.isFinalized id = ((session.state? id).getD .finalized = .finalized : Bool) := by
  rw [isFinalized, state?]
  cases session.statement? id <;> simp

theorem stateIn_cons (id : StatementId) (event : Event) (log : List Event) :
    stateIn id (event :: log) = (event.newState? id).or (stateIn id log) := by
  rw [stateIn, List.findSome?_cons]
  cases event.newState? id <;> rfl

theorem isThereIn_cons_of_none {object : Native.Object} {event : Event}
    (silent : event.life? object = none) (log : List Event) :
    isThereIn object (event :: log) = isThereIn object log := by
  rw [isThereIn, List.findSome?_cons, silent, isThereIn]

/-- An event that makes an object or gives it back. -/
theorem isThereIn_cons {event : Event} {object target : Native.Object} {life : Life}
    (tells : event.life? object = if target = object then some life else none)
    (log : List Event) :
    isThereIn object (event :: log) =
      if target = object then decide (life = .made) else isThereIn object log := by
  split
  · rename_i same
    rw [isThereIn, List.findSome?_cons, tells, if_pos same]
    simp
  · rename_i other
    exact isThereIn_cons_of_none (tells.trans (if_neg other)) log

/-! ### States of edited sessions -/

theorem state?_congr {first second : Session library}
    (same : first.connections = second.connections) (id : StatementId) :
    first.state? id = second.state? id := by
  rw [state?, state?, statement?, statement?, connection?_congr same]

theorem state?_updateConnection (id : Nat) (other : StatementId)
    (edit : ConnectionHandle → ConnectionHandle)
    (keeps : ∀ connection, (edit connection).statements = connection.statements) :
    (session.updateConnection id edit).state? other = session.state? other := by
  rw [state?, statement?_updateConnection session id keeps, state?]

theorem state?_setState (id other : StatementId) (state : StatementState) :
    (session.setState id state).state? other =
      if id = other then (session.state? other).map fun _ => state else session.state? other := by
  rw [state?, setState, statement?_updateStatement]
  split
  · simp only [state?, Option.map_map]
    rfl
  · rfl

theorem state?_addStatement (session : Session library) {connection : ConnectionHandle}
    {id : StatementId} (found : session.connection? id.connection = some connection)
    (next : id.index = connection.statements.length) (sql : String) (other : StatementId) :
    (session.addStatement id sql).state? other =
      if id = other then some .prepared else session.state? other := by
  obtain ⟨made, index⟩ := id
  obtain ⟨otherMade, otherIndex⟩ := other
  dsimp only at found next
  simp only [state?, statement?, addStatement, connection?_updateConnection, StatementId.mk.injEq]
  by_cases same : made = otherMade
  · subst same next
    simp only [if_true, found, Option.map_some, Option.bind_some, true_and]
    obtain early | rfl | late := Nat.lt_trichotomy otherIndex connection.statements.length
    · rw [List.getElem?_append_left early, if_neg (by omega)]
    · simp
    · rw [if_neg (by omega), List.getElem?_eq_none (by rw [List.length_append]; exact late),
        List.getElem?_eq_none (Nat.le_of_lt late)]
  · simp [same]

theorem connection?_addConnection (path : String) (id : Nat) :
    (session.addConnection path).connection? id =
      if id = session.connections.length then some ⟨path, false, none, [], true⟩
      else session.connection? id := by
  simp only [connection?, addConnection]
  obtain old | rfl | late := Nat.lt_trichotomy id session.connections.length
  · rw [List.getElem?_append_left old, if_neg (Nat.ne_of_lt old)]
  · rw [List.getElem?_concat_length, if_pos rfl]
  · rw [if_neg (Nat.ne_of_gt late), List.getElem?_eq_none (by rw [List.length_append]; exact late),
      List.getElem?_eq_none (Nat.le_of_lt late)]

theorem state?_addConnection (path : String) (id : StatementId) :
    (session.addConnection path).state? id = session.state? id := by
  rw [state?, state?, statement?, statement?, connection?_addConnection]
  split
  · rename_i isNew
    rw [connection?, List.getElem?_eq_none (Nat.le_of_eq isNew.symm)]
    rfl
  · rfl

theorem isClosed_addConnection (path : String) (id : Nat) :
    (session.addConnection path).isClosed id =
      if id = session.connections.length then false else session.isClosed id := by
  rw [isClosed, connection?_addConnection]
  by_cases isNew : id = session.connections.length
  · rw [if_pos isNew, if_pos isNew]
  · rw [if_neg isNew, if_neg isNew]
    rfl

theorem isFinalized_eq_false_iff_state? {id : StatementId} :
    session.isFinalized id = false ↔
      ∃ state, session.state? id = some state ∧ state ≠ .finalized := by
  rw [isFinalized_eq]
  cases session.state? id <;> simp

/-- The state of a statement that gets a new one. -/
theorem setState_state? {id : StatementId} (isLive : session.isFinalized id = false)
    (state : StatementState) (other : StatementId) :
    (session.setState id state).state? other =
      (if id = other then some state else none).or (session.state? other) := by
  rw [state?_setState]
  split
  · rename_i same
    subst same
    obtain ⟨old, present, -⟩ := isFinalized_eq_false_iff_state?.mp isLive
    rw [present]
    rfl
  · rfl

/-- A state that was just set. -/
theorem state?_setState_self {id : StatementId} (isLive : session.isFinalized id = false)
    (state : StatementState) : (session.setState id state).state? id = some state := by
  rw [setState_state? isLive, if_pos rfl]
  rfl

theorem state?_setAddress (id : Nat) (address? : Option Nat) (other : StatementId) :
    (session.setAddress id address?).state? other = session.state? other :=
  state?_updateConnection id other _ fun _ => rfl

theorem state?_releaseConnection (session : Session library) (id : Nat) (other : StatementId) :
    (session.updateConnection id fun connection => { connection with isHeld := false }).state? other =
      session.state? other :=
  state?_updateConnection id other _ fun _ => rfl

theorem state?_releaseStatement (session : Session library) (id other : StatementId) :
    (session.updateStatement id fun statement => { statement with isHeld := false }).state? other =
      session.state? other := by
  rw [state?, state?, statement?_updateStatement]
  split <;> cases session.statement? other <;> rfl

theorem state?_markClosed (id : Nat) (other : StatementId) :
    (session.markClosed id).state? other = session.state? other :=
  state?_updateConnection id other _ fun _ => rfl

/-! ### Turns -/

/-- A turn that records a new state gives it to the handle. -/
theorem Turn.stateIn_eq (turn : Turn motion allowed before after)
    (known : ∀ id, stateIn id before.log = before.state? id) (id : StatementId) :
    stateIn id after.log = after.state? id := by
  cases turn with
  | enters call touched guard =>
    rw [log_record, stateIn_cons, Event.newState?_enters guard.isUse]
    exact known id
  | leaves call result world touched leaves =>
    rw [log_returned, stateIn_cons, Event.newState?_leaves leaves]
    exact known id
  | asks | answers => exact known id
  | steps other code world touched guard =>
    exact (stateIn_cons id (.leaves (.step other) code) before.log).trans
      ((congrArg _ (known id)).trans (setState_state? guard.isLive _ id).symm)
  | resets other code world touched guard =>
    exact (stateIn_cons id (.leaves (.reset other) code) before.log).trans
      ((congrArg _ (known id)).trans (setState_state? guard.isLive _ id).symm)
  | prepares other sql preparation world touched found isOpen next success =>
    rw [state?_addStatement (before.returned (.prepareV2 other sql) preparation world) found next]
    refine (stateIn_cons id (.leaves (.prepareV2 other sql) preparation) before.log).trans ?_
    simp only [Event.newState?, success, and_self, and_true, known id]
    split <;> rfl
  | destroys other ends isLive =>
    exact (stateIn_cons id (.enters (.finalize other)) before.log).trans
      ((congrArg _ (known id)).trans (setState_state? isLive _ id).symm)
  | opens path flags opening opened attempt =>
    rw [state?_addConnection, state?_congr attempt.connections, ← known id]
    cases attempt <;> rfl
  | fails path flags opening opened attempt =>
    rw [state?_congr attempt.connections, ← known id]
    cases attempt <;> rfl
  | closes other =>
    rw [log_dropCallback, state?_congr (connections_dropCallback _ _), state?_setAddress]
    exact (known id).trans (state?_markClosed other id).symm
  | authorizes other callback? =>
    rw [log_dropCallback, state?_congr (connections_dropCallback _ _), state?_setAddress]
    exact ((congrArg _ (log_box before callback?)).trans (known id)).trans
      (state?_congr (connections_box before callback?) id).symm
  | declines other callback? =>
    rw [log_dropCallback, state?_congr (connections_dropCallback _ _)]
    exact ((congrArg _ (log_box before callback?)).trans (known id)).trans
      (state?_congr (connections_box before callback?) id).symm
  | connectionToken | statementToken | disposesConnection | disposesStatement => exact known id
  | releasesConnection other =>
    exact (known id).trans (before.state?_releaseConnection other id).symm
  | releasesStatement other =>
    exact (known id).trans (before.state?_releaseStatement other id).symm

theorem isClosed_markClosed_of_ne {id other : Nat} (apart : other ≠ id) :
    (session.markClosed id).isClosed other = session.isClosed other := by
  rw [isClosed, isClosed, markClosed, connection?_updateConnection_of_ne session apart]

theorem has_eq {first second : Session library} {object : Native.Object}
    (closed : ∀ id, first.isClosed id = second.isClosed id)
    (states : ∀ id, first.state? id = second.state? id) : first.has object = second.has object := by
  cases object with
  | connection id => rw [has, has, closed]
  | statement id => rw [has, has, isFinalized_eq, isFinalized_eq, states]

theorem has_updateConnection (id : Nat) (edit : ConnectionHandle → ConnectionHandle)
    (closed : ∀ connection, (edit connection).isClosed = connection.isClosed)
    (statements : ∀ connection, (edit connection).statements = connection.statements)
    (object : Native.Object) : (session.updateConnection id edit).has object = session.has object :=
  has_eq (fun other => session.isClosed_updateConnection id other edit closed)
    fun other => state?_updateConnection id other edit statements

theorem has_congr {first second : Session library}
    (same : first.connections = second.connections) (object : Native.Object) :
    first.has object = second.has object :=
  has_eq (isClosed_congr same) (state?_congr same)

theorem isClosed_setAddress (session : Session library) (id : Nat) (address? : Option Nat)
    (other : Nat) : (session.setAddress id address?).isClosed other = session.isClosed other :=
  session.isClosed_updateConnection id other _ fun _ => rfl

theorem has_setAddress (session : Session library) (id : Nat) (address? : Option Nat)
    (object : Native.Object) : (session.setAddress id address?).has object = session.has object :=
  has_updateConnection id (fun connection => { connection with authorizer? := address? })
    (fun _ => rfl) (fun _ => rfl) object

theorem has_releaseConnection (session : Session library) (id : Nat) (object : Native.Object) :
    (session.updateConnection id fun connection => { connection with isHeld := false }).has object =
      session.has object :=
  has_updateConnection id (fun connection => { connection with isHeld := false })
    (fun _ => rfl) (fun _ => rfl) object

theorem has_setState {id : StatementId} (isLive : session.isFinalized id = false)
    (state : StatementState) (object : Native.Object) :
    (session.setState id state).has object =
      if .statement id = object then decide (state ≠ .finalized) else session.has object := by
  cases object with
  | connection other =>
    rw [if_neg (by simp), has, has, setState, isClosed_updateStatement]
  | statement other =>
    rw [has, isFinalized_eq, setState_state? isLive]
    by_cases same : id = other
    · subst same
      simp
    · rw [if_neg same, if_neg (by simpa using same), Option.none_or, has, isFinalized_eq]

theorem stateAfterStep_ne_finalized (code : Int32) : stateAfterStep code ≠ .finalized := by
  unfold stateAfterStep
  split
  · simp
  · split <;> simp

theorem has_statement {id : StatementId} (isLive : session.isFinalized id = false) :
    session.has (.statement id) = true := by
  rw [has, isLive]
  rfl

theorem has_connection {id : Nat} (isOpen : session.isClosed id = false) :
    session.has (.connection id) = true := by
  rw [has, isOpen]
  rfl

/-- A live statement that gets another live state. -/
theorem has_setState_of_ne {id : StatementId} (isLive : session.isFinalized id = false)
    {state : StatementState} (keeps : state ≠ .finalized) (object : Native.Object) :
    (session.setState id state).has object = session.has object := by
  rw [has_setState isLive]
  split
  · rename_i same
    rw [← same, has_statement isLive, decide_eq_true keeps]
  · rfl

theorem has_addStatement (session : Session library) {connection : ConnectionHandle}
    {id : StatementId} (found : session.connection? id.connection = some connection)
    (next : id.index = connection.statements.length) (sql : String) (object : Native.Object) :
    (session.addStatement id sql).has object =
      if .statement id = object then true else session.has object := by
  cases object with
  | connection other =>
    have kept : (session.addStatement id sql).isClosed other = session.isClosed other :=
      session.isClosed_updateConnection _ other _ fun _ => rfl
    rw [if_neg (by simp), has, has, kept]
  | statement other =>
    rw [has, isFinalized_eq, state?_addStatement session found next]
    by_cases same : id = other
    · subst same
      simp
    · rw [if_neg same, if_neg (by simpa using same), has, isFinalized_eq]

theorem has_addConnection (path : String) (object : Native.Object) :
    (session.addConnection path).has object =
      if .connection session.connections.length = object then true else session.has object := by
  cases object with
  | connection id =>
    rw [has, isClosed_addConnection]
    by_cases same : id = session.connections.length
    · subst same
      simp
    · rw [if_neg same, if_neg (by simpa using Ne.symm same), has]
  | statement id =>
    rw [if_neg (by simp), has, has, isFinalized_eq, isFinalized_eq, state?_addConnection]

theorem has_markClosed (id : Nat) (object : Native.Object) :
    (session.markClosed id).has object =
      if .connection id = object then false else session.has object := by
  cases object with
  | connection other =>
    by_cases same : id = other
    · subst same
      rw [has, isClosed_markClosed]
      simp
    · rw [has, isClosed_markClosed_of_ne (Ne.symm same), if_neg (by simpa using same), has]
  | statement other =>
    rw [if_neg (by simp), has, has, isFinalized_eq, isFinalized_eq, state?_markClosed]

/-- There is no connection yet at the next number. -/
theorem has_next : session.has (.connection session.connections.length) = false := by
  rw [has, isClosed, connection?, List.getElem?_eq_none (Nat.le_refl _)]
  rfl

namespace Attempt

variable {path : String} {flags : Int32} {opening : Native.Opening}

theorem isThereIn_of_success (attempt : before.Attempt path flags opening after)
    (success : opening.code = 0) (object : Native.Object) :
    isThereIn object after.log =
      if .connection before.connections.length = object then true
      else isThereIn object before.log := by
  have tells : (Event.leaves (.openV2 before.connections.length path flags) opening).life? object =
      if .connection before.connections.length = object then some .made else none := by
    simp only [Event.life?, success, true_or, and_true]
  have opened := isThereIn_cons tells
    (.enters (.openV2 before.connections.length path flags) :: before.log)
  cases attempt with
  | plain => exact opened
  | waiting => exact opened
  | halfOpen _ failure => exact absurd success failure

/-- What a failed attempt makes it gives back. -/
theorem isThereIn_of_failure (attempt : before.Attempt path flags opening after)
    (failure : opening.code ≠ 0)
    (isNew : isThereIn (.connection before.connections.length) before.log = false)
    (object : Native.Object) : isThereIn object after.log = isThereIn object before.log := by
  cases attempt with
  | plain _ settled =>
    refine isThereIn_cons_of_none ?_ _
    simp only [Event.life?, failure, settled.resolve_left failure]
    simp
  | waiting _ success => exact absurd success failure
  | halfOpen _ _ isHalfOpen bytes? told code later =>
    have tells : (Event.enters (.close before.connections.length)).life? object =
        if .connection before.connections.length = object then some .released else none := rfl
    have closed := isThereIn_cons tells (.leaves (.errorMessage before.connections.length) bytes? ::
        .enters (.errorMessage before.connections.length) ::
        .leaves (.openV2 before.connections.length path flags) opening ::
        .enters (.openV2 before.connections.length path flags) :: before.log)
    refine closed.trans ?_
    split
    · rename_i same
      rw [← same, isNew]
      rfl
    · rename_i other
      refine isThereIn_cons_of_none ?_ (.enters (.openV2 _ path flags) :: before.log)
      simp only [Event.life?, other, false_and, if_false]

end Attempt

/-- A turn that records the making or the end of an object is one of its handle. -/
theorem Turn.isThereIn_eq (turn : Turn motion allowed before after)
    (known : ∀ object, isThereIn object before.log = before.has object)
    (object : Native.Object) : isThereIn object after.log = after.has object := by
  cases turn with
  | enters call touched guard =>
    exact (isThereIn_cons_of_none (Event.life?_enters guard.isUse object) _).trans (known object)
  | leaves call result world touched leaves =>
    exact (isThereIn_cons_of_none (Event.life?_leaves leaves object) _).trans (known object)
  | asks | answers => exact (isThereIn_cons_of_none rfl _).trans (known object)
  | steps other code world touched guard =>
    have kept := has_setState_of_ne guard.isLive (stateAfterStep_ne_finalized code) object
    exact (isThereIn_cons_of_none rfl _).trans ((known object).trans kept.symm)
  | resets other code world touched guard =>
    have kept := has_setState_of_ne guard.isLive
      (by decide : StatementState.prepared ≠ .finalized) object
    exact (isThereIn_cons_of_none rfl _).trans ((known object).trans kept.symm)
  | prepares other sql preparation world touched found isOpen next success =>
    rw [has_addStatement (before.returned (.prepareV2 other sql) preparation world) found next]
    have tells : (Event.leaves (.prepareV2 other sql) preparation).life? object =
        if .statement other = object then some .made else none := by
      simp only [Event.life?, success, and_self, and_true]
    refine (isThereIn_cons tells before.log).trans ?_
    rw [known object]
    rfl
  | destroys other ends isLive =>
    refine (isThereIn_cons rfl before.log).trans ?_
    rw [known object]
    exact (has_setState isLive .finalized object).symm
  | opens path flags opening opened attempt success =>
    refine (attempt.isThereIn_of_success success object).trans ?_
    rw [has_addConnection, known object, attempt.connections,
      has_eq (isClosed_congr attempt.connections) (state?_congr attempt.connections)]
  | fails path flags opening opened attempt failure =>
    rw [has_eq (isClosed_congr attempt.connections) (state?_congr attempt.connections),
      ← known object]
    exact attempt.isThereIn_of_failure failure ((known _).trans before.has_next) object
  | closes other unset code between world =>
    rw [has_congr (connections_dropCallback _ _), has_setAddress, log_dropCallback]
    refine Eq.trans ?_ (before.has_markClosed other object).symm
    refine (isThereIn_cons_of_none rfl _).trans ((isThereIn_cons rfl _).trans ?_)
    rw [← known object]
    rfl
  | authorizes other callback? =>
    rw [has_congr (connections_dropCallback _ _), has_setAddress, log_dropCallback]
    exact ((congrArg _ (log_box before callback?)).trans (known object)).trans
      (has_congr (connections_box before callback?) object).symm
  | declines other callback? =>
    rw [has_congr (connections_dropCallback _ _), log_dropCallback]
    exact ((congrArg _ (log_box before callback?)).trans (known object)).trans
      (has_congr (connections_box before callback?) object).symm
  | connectionToken | statementToken | disposesConnection | disposesStatement => exact known object
  | releasesConnection other =>
    exact (known object).trans (before.has_releaseConnection other object).symm
  | releasesStatement other =>
    refine (known object).trans (has_eq (fun id => ?_) fun id => ?_)
    · exact (before.isClosed_updateStatement other _ id).symm
    · exact (before.state?_releaseStatement other id).symm

/-! ### What is added to the record -/

/-- The record of one session goes on from that of another with events of a kind. -/
def LogGrows (kind : Event → Prop) (before after : Session library) : Prop :=
  ∃ added, after.log = added ++ before.log ∧ ∀ event ∈ added, kind event

namespace LogGrows

variable {kind kind' : Event → Prop}

theorem refl : LogGrows kind session session := ⟨[], rfl, nofun⟩

theorem of_eq (same : after.log = before.log) : LogGrows kind before after := ⟨[], same, nofun⟩

theorem trans {first second third : Session library} (early : LogGrows kind first second)
    (late : LogGrows kind second third) : LogGrows kind first third := by
  obtain ⟨earlier, eq, isKind⟩ := early
  obtain ⟨later, eq', isKind'⟩ := late
  refine ⟨later ++ earlier, by rw [eq', eq, List.append_assoc], fun event listed => ?_⟩
  obtain listed | listed := List.mem_append.mp listed
  · exact isKind' event listed
  · exact isKind event listed

theorem cons {event : Event} (grows : LogGrows kind before session)
    (log : after.log = event :: session.log) (isKind : kind event) : LogGrows kind before after := by
  obtain ⟨added, eq, isKind'⟩ := grows
  exact ⟨event :: added, log.trans (congrArg _ eq), List.forall_mem_cons.mpr ⟨isKind, isKind'⟩⟩

theorem called (grows : LogGrows kind before session) (call : Call) (result : call.Result)
    (world : library.World) (isKind : kind (.enters call) ∧ kind (.leaves call result)) :
    LogGrows kind before (session.called call result world) := by
  have entered : LogGrows kind before (session.record (.enters call)) :=
    .cons grows rfl isKind.1
  exact .cons entered rfl isKind.2

theorem mono (grows : LogGrows kind before after) (weaker : ∀ event, kind event → kind' event) :
    LogGrows kind' before after :=
  let ⟨added, eq, isKind⟩ := grows
  ⟨added, eq, fun event listed => weaker event (isKind event listed)⟩

theorem suffix (grows : LogGrows kind before after) : before.log <:+ after.log :=
  let ⟨added, eq, _⟩ := grows
  ⟨added, eq.symm⟩

/-- Events that do not tell leave what was told last. -/
theorem findSome?_eq {β : Type} {tells : Event → Option β} (grows : LogGrows kind before after)
    (silent : ∀ event, kind event → tells event = none) :
    after.log.findSome? tells = before.log.findSome? tells := by
  obtain ⟨added, eq, isKind⟩ := grows
  have unheard : added.findSome? tells = none :=
    List.findSome?_eq_none_iff.mpr fun event listed => silent event (isKind event listed)
  rw [eq, List.findSome?_append, unheard, Option.none_or]

end LogGrows

theorem Attempt.logGrows {path : String} {flags : Int32} {opening : Native.Opening}
    (attempt : before.Attempt path flags opening after) :
    LogGrows (fun event => event.connection = before.connections.length ∧
      event.isConsultation = false) before after := by
  have opened (world : library.World) :
      LogGrows (fun event => event.connection = before.connections.length ∧
          event.isConsultation = false) before
        (before.called (.openV2 before.connections.length path flags) opening world) :=
    LogGrows.refl.called (.openV2 before.connections.length path flags) opening world
      ⟨⟨rfl, rfl⟩, ⟨rfl, rfl⟩⟩
  cases attempt with
  | plain world => exact opened world
  | waiting world _ time code later =>
    exact .called (opened world) (.busyTimeout _ time) code later ⟨⟨rfl, rfl⟩, ⟨rfl, rfl⟩⟩
  | halfOpen world _ _ bytes? told code later =>
    have asked := (opened world).called (.errorMessage before.connections.length) bytes? told
      ⟨⟨rfl, rfl⟩, ⟨rfl, rfl⟩⟩
    exact asked.called (.close before.connections.length) code later ⟨⟨rfl, rfl⟩, ⟨rfl, rfl⟩⟩

/-- The events of a turn are about connections that it may touch, or about the next one. -/
def Touches (allowed : Act → Prop) (session : Session library) (event : Event) : Prop :=
  Touched allowed event.connection ∨ event.connection = session.connections.length

theorem Turn.logGrows (turn : Turn motion allowed before after) :
    LogGrows (Touches allowed before) before after := by
  cases turn with
  | enters _ touched | leaves _ _ _ touched | asks _ _ _ _ touched | answers _ _ touched
  | steps _ _ _ touched | resets _ _ _ touched | prepares _ _ _ _ touched =>
    exact .cons .refl rfl (.inl touched)
  | destroys other ends => exact .cons .refl rfl (.inl (touched_of_ends ends))
  | opens path flags opening opened attempt =>
    exact (attempt.logGrows.mono fun _ own => .inr own.1).trans (.of_eq rfl)
  | fails path flags opening opened attempt => exact attempt.logGrows.mono fun _ own => .inr own.1
  | closes other unset code between world touched =>
    have marked : LogGrows (Touches allowed before) before (before.markClosed other) := .of_eq rfl
    have unregistered := marked.called (.setAuthorizer other none) unset between
      ⟨.inl touched, .inl touched⟩
    exact (unregistered.called (.closeV2 other) code world ⟨.inl touched, .inl touched⟩).trans
      (.of_eq (log_dropCallback _ _))
  | authorizes other callback? world sets =>
    have touched : Touched allowed other := ⟨_, sets, rfl⟩
    have boxed : LogGrows (Touches allowed before) before (before.box callback?).2 :=
      .of_eq (log_box before callback?)
    exact (boxed.called (.setAuthorizer other _) (0 : Int32) world
      ⟨.inl touched, .inl touched⟩).trans (.of_eq (log_dropCallback _ _))
  | declines other callback? code bytes? between world touched =>
    have boxed : LogGrows (Touches allowed before) before (before.box callback?).2 :=
      .of_eq (log_box before callback?)
    have registered := boxed.called (.setAuthorizer other (before.box callback?).1) code between
      ⟨.inl touched, .inl touched⟩
    exact (registered.called (.errorMessage other) bytes? world
      ⟨.inl touched, .inl touched⟩).trans (.of_eq (log_dropCallback _ _))
  | connectionToken | statementToken | disposesConnection | disposesStatement => exact .refl
  | releasesConnection | releasesStatement => exact .of_eq rfl

theorem Path.log_suffix (path : Path motion allowed before after) : before.log <:+ after.log := by
  induction path with
  | refl => exact List.suffix_refl _
  | tail _ turn ih => exact ih.trans turn.logGrows.suffix

/-- In the middle of a call about a connection, what is added about the connection is that its
callbacks are asked and answer. -/
theorem Interlude.logGrows {id : Nat} (interlude : Interlude motion allowed id before after)
    (isOld : id < before.connections.length) :
    LogGrows (fun event => event.connection = id → event.isConsultation = true) before after := by
  have longer : LogGrows (fun event => event.connection = id → event.isConsultation = true)
      before after ∧ id < after.connections.length := by
    induction interlude with
    | refl => exact ⟨.refl, isOld⟩
    | tail _ aside ih =>
      obtain ⟨grows, isOld⟩ := ih
      cases aside with
      | asks | answers => exact ⟨.cons grows rfl fun _ => rfl, isOld⟩
      | turn turn =>
        refine ⟨grows.trans (turn.logGrows.mono ?_), Nat.lt_of_lt_of_le isOld turn.length_le⟩
        rintro event (touched | isNew) about
        · exact absurd (about ▸ touched) not_touched_sparing
        · exact absurd (about.symm.trans isNew) (Nat.ne_of_lt isOld)
  exact longer.1

end Session

end SqliteBridge
