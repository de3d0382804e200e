import SqliteBridge.Native.Scripted
import SqliteBridge.Proofs.Session.Record

/-! Objects of the library are given back once. A call is made on an object only while it is there,
and giving it back is such a call; what a failed attempt to open leaves is closed at once. -/
namespace SqliteBridge

open Native (Call Library)

namespace Event

/-- What the record before an event says if it was in order: a call is made on what is there, and
what is made was not there. -/
structure IsOrderly (event : Event) (earlier : List Event) : Prop where
  enters (call : Call) (entered : event = .enters call) (object : Native.Object)
    (isOn : call.object? = some object) : Session.isThereIn object earlier = true
  makes (object : Native.Object) (made : event.life? object = some .made) :
    Session.isThereIn object earlier = false

/-- An object is given back by a call on it. -/
theorem enters_of_released {event : Event} {object : Native.Object}
    (released : event.life? object = some .released) :
    ∃ call : Call, event = .enters call ∧ call.object? = some object := by
  unfold life? at released
  split at released
  · split at released <;> cases released
  · split at released <;> cases released
  · split at released
    · rename_i same
      exact ⟨_, rfl, congrArg some same⟩
    · cases released
  · split at released
    · rename_i same
      exact ⟨_, rfl, congrArg some same⟩
    · cases released
  · split at released
    · rename_i same
      exact ⟨_, rfl, congrArg some same⟩
    · cases released
  · cases released

end Event

namespace Session

variable {library : Library} {motion : Motion library} {allowed : Act → Prop}
  {conduct : Conduct library} {session before after : Session library}

/-- A record whose events are all in order. -/
abbrev Orderly : List Event → Prop := Throughout Event.IsOrderly

/-! ### The balance of a record -/

def makings (object : Native.Object) (log : List Event) : Nat :=
  log.countP fun event => event.life? object = some .made

def releases (object : Native.Object) (log : List Event) : Nat :=
  log.countP fun event => event.life? object = some .released

/-- What was made was given back as often, but for what is still there. -/
theorem Orderly.makings_eq {log : List Event} (orderly : Orderly log) (object : Native.Object) :
    makings object log = releases object log + if isThereIn object log then 1 else 0 := by
  induction log with
  | nil => rfl
  | cons event log ih =>
    obtain ⟨head, tail⟩ := orderly
    have balance := ih tail
    simp only [makings, releases, List.countP_cons] at balance ⊢
    cases tells : event.life? object with
    | none =>
      rw [isThereIn_cons_of_none tells, balance]
      simp
    | some life =>
      have cons : isThereIn object (event :: log) = decide (life = .made) := by
        rw [isThereIn, List.findSome?_cons, tells]
        simp
      cases life with
      | made =>
        rw [balance, cons, head.makes object tells]
        simp
      | released =>
        obtain ⟨call, entered, isOn⟩ := Event.enters_of_released tells
        rw [balance, cons, head.enters call entered object isOn]
        simp

/-! ### Turns -/

theorem eq_of_object?_eq_some {call : Call} {object : Native.Object}
    (isOn : call.object? = some object) :
    (∃ id, call.statement? = some id ∧ object = .statement id) ∨
      object = .connection call.connection := by
  unfold Call.object? at isOn
  split at isOn
  · cases isOn
  · cases isOn
  · cases named : call.statement? with
    | none =>
      rw [named] at isOn
      exact .inr (Option.some.inj isOn).symm
    | some id =>
      rw [named] at isOn
      exact .inl ⟨id, rfl, (Option.some.inj isOn).symm⟩

theorem CanEnter.has_of_object? {call : Call} (guard : session.CanEnter call)
    {object : Native.Object} (isOn : call.object? = some object) : session.has object = true := by
  obtain ⟨id, named, rfl⟩ | rfl := eq_of_object?_eq_some isOn
  · exact has_statement (guard.isLive id named)
  · exact has_connection guard.isOpen

/-- A call that is entered makes nothing yet. -/
theorem isOrderly_enters {call : Call} {earlier : List Event}
    (isThere : ∀ object, call.object? = some object → isThereIn object earlier = true) :
    (Event.enters call).IsOrderly earlier := by
  constructor
  · rintro _ ⟨⟩
    exact isThere
  · intro object made
    cases call with
    | close | closeV2 | finalize =>
      simp [Event.life?] at made
    | _ => cases made

theorem isOrderly_leaves {call : Call} {result : call.Result} {earlier : List Event}
    (isNew : ∀ object, (Event.leaves call result).life? object = some .made →
      isThereIn object earlier = false) : (Event.leaves call result).IsOrderly earlier :=
  ⟨nofun, isNew⟩

/-- A call that uses what there is and returns. -/
theorem orderly_called (call : Call) (result : call.Result) {log : List Event}
    (orderly : Orderly log)
    (isThere : ∀ object, call.object? = some object → isThereIn object log = true)
    (silent : ∀ object, (Event.leaves call result).life? object = none) :
    Orderly (.leaves call result :: .enters call :: log) := by
  refine ⟨isOrderly_leaves fun object made => ?_, isOrderly_enters isThere, orderly⟩
  rw [silent object] at made
  cases made

theorem Attempt.orderly {path : String} {flags : Int32} {opening : Native.Opening}
    (attempt : before.Attempt path flags opening after) (orderly : Orderly before.log)
    (isNew : isThereIn (.connection before.connections.length) before.log = false) :
    Orderly after.log := by
  have opened : Orderly (.leaves (.openV2 before.connections.length path flags) opening ::
      .enters (.openV2 before.connections.length path flags) :: before.log) := by
    refine ⟨isOrderly_leaves fun object made => ?_, isOrderly_enters nofun, orderly⟩
    simp only [Event.life?, Option.ite_none_right_eq_some] at made
    rw [← made.1.1]
    exact isNew
  have isThere (made : opening.code = 0 ∨ opening.isHalfOpen = true) :
      isThereIn (.connection before.connections.length)
        (.leaves (.openV2 before.connections.length path flags) opening ::
          .enters (.openV2 before.connections.length path flags) :: before.log) = true := by
    simp [isThereIn, Event.life?, made]
  cases attempt with
  | plain => exact opened
  | waiting _ success time code =>
    refine orderly_called (.busyTimeout _ time) code opened ?_ fun _ => rfl
    rintro _ ⟨⟩
    exact isThere (.inl success)
  | halfOpen _ _ isHalfOpen bytes? _ code =>
    refine orderly_called (.close _) code (orderly_called (.errorMessage _) bytes? opened ?_
      fun _ => rfl) ?_ fun _ => rfl
    · rintro _ ⟨⟩
      exact isThere (.inr isHalfOpen)
    · rintro _ ⟨⟩
      exact isThere (.inr isHalfOpen)

/-- The calls of a turn are made on what is there. -/
theorem Turn.orderly (turn : Turn motion allowed before after)
    (known : ∀ object, isThereIn object before.log = before.has object)
    (orderly : Orderly before.log) : Orderly after.log := by
  cases turn with
  | enters call touched guard =>
    refine ⟨isOrderly_enters fun object isOn => ?_, orderly⟩
    exact (known object).trans (guard.has_of_object? isOn)
  | leaves call result world touched leaves =>
    refine ⟨isOrderly_leaves fun object made => ?_, orderly⟩
    rw [Event.life?_leaves leaves] at made
    cases made
  | asks | answers => exact ⟨⟨nofun, nofun⟩, orderly⟩
  | steps | resets => exact ⟨⟨nofun, nofun⟩, orderly⟩
  | prepares other sql preparation world touched found isOpen next success =>
    refine ⟨isOrderly_leaves fun object made => ?_, orderly⟩
    simp only [Event.life?, Option.ite_none_right_eq_some] at made
    have isNew : before.statement? other = none := by
      rw [statement?, found, Option.bind_some, next, List.getElem?_eq_none (Nat.le_refl _)]
    rw [known, ← made.1.1, has, isFinalized, isNew]
    rfl
  | destroys other ends isLive =>
    refine ⟨isOrderly_enters ?_, orderly⟩
    rintro _ ⟨⟩
    exact (known _).trans (has_statement isLive)
  | opens path flags opening opened attempt =>
    exact attempt.orderly orderly ((known _).trans before.has_next)
  | fails path flags opening opened attempt =>
    exact attempt.orderly orderly ((known _).trans before.has_next)
  | closes other unset code between world touched isOpen =>
    have isThere := (known _).trans (has_connection isOpen)
    rw [log_dropCallback]
    refine orderly_called (.closeV2 other) code (orderly_called (.setAuthorizer other none) unset
      orderly ?_ fun _ => rfl) ?_ fun _ => rfl
    · rintro _ ⟨⟩
      exact isThere
    · rintro _ ⟨⟩
      exact isThere
  | authorizes other callback? world touched isOpen =>
    have isThere := (known _).trans (has_connection isOpen)
    rw [← log_box before callback?] at orderly isThere
    rw [log_dropCallback]
    refine orderly_called (.setAuthorizer other _) (0 : Int32) orderly ?_ fun _ => rfl
    rintro _ ⟨⟩
    exact isThere
  | declines other callback? code bytes? between world touched isOpen =>
    have isThere := (known _).trans (has_connection isOpen)
    rw [← log_box before callback?] at orderly isThere
    rw [log_dropCallback]
    refine orderly_called (.errorMessage other) bytes? (orderly_called (.setAuthorizer other _) code
      orderly ?_ fun _ => rfl) ?_ fun _ => rfl
    · rintro _ ⟨⟩
      exact isThere
    · rintro _ ⟨⟩
      exact isThere
  | connectionToken | statementToken | disposesConnection | disposesStatement => exact orderly
  | releasesConnection | releasesStatement => exact orderly

/-! ### Statements are made once -/

theorem makings_cons_of_ne {object : Native.Object} {event : Event}
    (other : event.life? object ≠ some .made) (log : List Event) :
    makings object (event :: log) = makings object log := by
  rw [makings, List.countP_cons_of_neg (by simpa using other), makings]

theorem makings_cons_of_none {object : Native.Object} {event : Event}
    (silent : event.life? object = none) (log : List Event) :
    makings object (event :: log) = makings object log :=
  makings_cons_of_ne (by rw [silent]; nofun) log

/-- A number is given to one statement only. -/
def StatementsCounted (session : Session library) : Prop :=
  ∀ id, makings (.statement id) session.log = (session.state? id).isSome.toNat

theorem Attempt.makings_statement {path : String} {flags : Int32} {opening : Native.Opening}
    (attempt : before.Attempt path flags opening after) (id : StatementId) :
    makings (.statement id) after.log = makings (.statement id) before.log := by
  cases attempt <;> simp [called, makings, Event.life?]

theorem isSome_state?_setState (session : Session library) (id : StatementId)
    (state : StatementState) (other : StatementId) :
    ((session.setState id state).state? other).isSome = (session.state? other).isSome := by
  rw [state?_setState]
  split
  · exact Option.isSome_map
  · rfl

theorem Turn.statementsCounted (turn : Turn motion allowed before after)
    (counted : before.StatementsCounted) : after.StatementsCounted := by
  intro id
  cases turn with
  | enters call touched guard =>
    exact (makings_cons_of_none (Event.life?_enters guard.isUse _) _).trans (counted id)
  | leaves call result world touched leaves =>
    exact (makings_cons_of_none (Event.life?_leaves leaves _) _).trans (counted id)
  | asks | answers => exact (makings_cons_of_none rfl _).trans (counted id)
  | steps other code world =>
    rw [isSome_state?_setState (before.returned (.step other) code world)]
    exact (makings_cons_of_none rfl _).trans (counted id)
  | resets other code world =>
    rw [isSome_state?_setState (before.returned (.reset other) code world)]
    exact (makings_cons_of_none rfl _).trans (counted id)
  | prepares other sql preparation world touched found isOpen next success =>
    rw [state?_addStatement (before.returned (.prepareV2 other sql) preparation world) found next]
    by_cases same : other = id
    · subst same
      have isNew : before.state? other = none := by
        rw [state?, statement?, found, Option.bind_some, next, List.getElem?_eq_none (Nat.le_refl _)]
        rfl
      have unmade := counted other
      rw [isNew] at unmade
      have made : (Event.leaves (.prepareV2 other sql) preparation).life? (.statement other) =
          some .made := by simp [Event.life?, success]
      rw [if_pos rfl]
      refine (List.countP_cons_of_pos (by simpa using made)).trans ?_
      exact congrArg (· + 1) unmade
    · rw [if_neg same]
      refine (makings_cons_of_none ?_ _).trans (counted id)
      simp [Event.life?, same]
  | destroys other ends isLive =>
    have kept := isSome_state?_setState before other .finalized id
    refine (makings_cons_of_ne ?_ _).trans ((counted id).trans (congrArg _ kept.symm))
    simp [Event.life?]
  | opens path flags opening opened attempt =>
    rw [state?_addConnection, state?_congr attempt.connections]
    exact (attempt.makings_statement id).trans (counted id)
  | fails path flags opening opened attempt =>
    rw [state?_congr attempt.connections]
    exact (attempt.makings_statement id).trans (counted id)
  | closes other unset code between world =>
    rw [state?_congr (connections_dropCallback _ _), state?_setAddress, log_dropCallback]
    have kept : (before.markClosed other).state? id = before.state? id := state?_markClosed other id
    refine (makings_cons_of_none rfl _).trans ((makings_cons_of_ne ?_ _).trans
      ((makings_cons_of_none rfl _).trans ((makings_cons_of_none rfl _).trans
        ((counted id).trans (congrArg (·.isSome.toNat) kept.symm)))))
    simp [Event.life?]
  | authorizes other callback? =>
    rw [state?_congr (connections_dropCallback _ _), state?_setAddress, log_dropCallback]
    have kept := state?_congr (connections_box before callback?) id
    refine (makings_cons_of_none rfl _).trans ((makings_cons_of_none rfl _).trans ?_)
    exact ((congrArg _ (log_box before callback?)).trans (counted id)).trans
      (congrArg (·.isSome.toNat) kept.symm)
  | declines other callback? =>
    rw [state?_congr (connections_dropCallback _ _), log_dropCallback]
    have kept := state?_congr (connections_box before callback?) id
    refine (makings_cons_of_none rfl _).trans ((makings_cons_of_none rfl _).trans
      ((makings_cons_of_none rfl _).trans ((makings_cons_of_none rfl _).trans ?_)))
    exact ((congrArg _ (log_box before callback?)).trans (counted id)).trans
      (congrArg (·.isSome.toNat) kept.symm)
  | connectionToken | statementToken | disposesConnection | disposesStatement => exact counted id
  | releasesConnection other =>
    exact (counted id).trans
      (congrArg (·.isSome.toNat) (before.state?_releaseConnection other id).symm)
  | releasesStatement other =>
    exact (counted id).trans
      (congrArg (·.isSome.toNat) (before.state?_releaseStatement other id).symm)

/-! ### Failed attempts to open -/

/-- What a failed attempt to open leaves is closed at once, after its message was asked for. -/
def Prompt (log : List Event) : Prop :=
  ∀ id path flags opening earlier,
    (.leaves (.openV2 id path flags) opening :: earlier) <:+ log → opening.code ≠ 0 →
      opening.isHalfOpen = true → ∃ bytes? code,
        (.leaves (.close id) code :: .enters (.close id) :: .leaves (.errorMessage id) bytes? ::
          .enters (.errorMessage id) :: .leaves (.openV2 id path flags) opening :: earlier) <:+ log

/-- An event that is not the return from a failed attempt. -/
theorem Prompt.cons {log : List Event} (prompt : Prompt log) {event : Event}
    (settled : ∀ id path flags opening, event = .leaves (.openV2 id path flags) opening →
      opening.code = 0 ∨ opening.isHalfOpen = false) : Prompt (event :: log) := by
  intro id path flags opening earlier suffix failure isHalfOpen
  obtain same | suffix := List.suffix_cons_iff.mp suffix
  · cases same
    obtain success | shut := settled id path flags opening rfl
    · exact absurd success failure
    · rw [shut] at isHalfOpen
      cases isHalfOpen
  · obtain ⟨bytes?, code, closed⟩ := prompt id path flags opening earlier suffix failure isHalfOpen
    exact ⟨bytes?, code, closed.trans (List.suffix_cons event log)⟩

/-- A call other than an attempt to open. -/
theorem Prompt.called (call : Call) (result : call.Result) {log : List Event} (prompt : Prompt log)
    (other : ∀ id path flags, call ≠ .openV2 id path flags) :
    Prompt (.leaves call result :: .enters call :: log) := by
  have entered : Prompt (.enters call :: log) := .cons prompt nofun
  refine entered.cons ?_
  rintro id path flags opening ⟨⟩
  exact absurd rfl (other id path flags)

theorem Attempt.prompt {path : String} {flags : Int32} {opening : Native.Opening}
    (attempt : before.Attempt path flags opening after) (prompt : Prompt before.log) :
    Prompt after.log := by
  have entered : Prompt (.enters (.openV2 before.connections.length path flags) :: before.log) :=
    .cons prompt nofun
  cases attempt with
  | plain _ settled =>
    refine .cons entered ?_
    rintro _ _ _ _ ⟨⟩
    exact settled
  | waiting _ success time code =>
    refine .called (.busyTimeout _ time) code (.cons entered ?_) nofun
    rintro _ _ _ _ ⟨⟩
    exact .inl success
  | halfOpen _ failure isHalfOpen bytes? _ code =>
    intro id path' flags' opening' earlier suffix failure' isHalfOpen'
    obtain same | suffix := List.suffix_cons_iff.mp suffix
    · cases same
    obtain same | suffix := List.suffix_cons_iff.mp suffix
    · cases same
    obtain same | suffix := List.suffix_cons_iff.mp suffix
    · cases same
    obtain same | suffix := List.suffix_cons_iff.mp suffix
    · cases same
    obtain same | suffix := List.suffix_cons_iff.mp suffix
    · cases same
      exact ⟨bytes?, code, List.suffix_refl _⟩
    obtain ⟨bytes', code', closed⟩ := entered id path' flags' opening' earlier suffix failure'
      isHalfOpen'
    exact ⟨bytes', code', closed.trans ⟨[_, _, _, _, _], rfl⟩⟩

/-- A turn closes at once what it fails to open. -/
theorem Turn.prompt (turn : Turn motion allowed before after) (prompt : Prompt before.log) :
    Prompt after.log := by
  cases turn with
  | enters | asks | answers | steps | resets | prepares | destroys => exact .cons prompt nofun
  | leaves call result world touched leaves =>
    refine .cons prompt ?_
    rintro _ _ _ _ ⟨⟩
    exact leaves.elim
  | opens path flags opening opened attempt => exact attempt.prompt prompt
  | fails path flags opening opened attempt => exact attempt.prompt prompt
  | closes other unset code =>
    rw [log_dropCallback]
    exact .called (.closeV2 other) code (.called (.setAuthorizer other none) unset prompt nofun) nofun
  | authorizes other callback? =>
    rw [← log_box before callback?] at prompt
    rw [log_dropCallback]
    exact .called (.setAuthorizer other _) (0 : Int32) prompt nofun
  | declines other callback? code bytes? =>
    rw [← log_box before callback?] at prompt
    rw [log_dropCallback]
    exact .called (.errorMessage other) bytes? (.called (.setAuthorizer other _) code prompt nofun)
      nofun
  | connectionToken | statementToken | disposesConnection | disposesStatement => exact prompt
  | releasesConnection | releasesStatement => exact prompt

/-! ### Handles that are let go -/

theorem state?_settleConnection (conduct : Conduct library) (session : Session library) (id : Nat)
    (statement : StatementId) :
    (session.settleConnection conduct id).state? statement = session.state? statement := by
  unfold settleConnection
  split
  · rfl
  · rename_i dropped
    rw [Bool.or_eq_true, not_or] at dropped
    obtain ⟨unset, code, between, world, -, shut⟩ :=
      closeNative_eq (.any library) conduct (eq_false_of_ne_true dropped.2)
    rw [shut, state?_congr (connections_dropCallback _ _), state?_setAddress]
    exact session.state?_markClosed id statement

/-- A connection that is let go can still be reached, or else it is closed. -/
theorem settleConnection_ends (conduct : Conduct library) (session : Session library) (id : Nat) :
    (session.settleConnection conduct id).isConnectionReachable id = true ∨
      (session.settleConnection conduct id).isClosed id = true := by
  unfold settleConnection
  split
  · rename_i kept
    exact Bool.or_eq_true _ _ ▸ kept
  · rename_i dropped
    rw [Bool.or_eq_true, not_or] at dropped
    exact .inr (isClosed_closeNative conduct (eq_false_of_ne_true dropped.2))

/-- A statement that can be reached keeps its connection in reach. -/
theorem isConnectionReachable_of_statement {id : StatementId}
    (isReachable : session.isStatementReachable id = true) :
    session.isConnectionReachable id.connection = true := by
  have reached := isReachable
  rw [isStatementReachable, statement?] at isReachable
  rw [isConnectionReachable]
  cases found : session.connection? id.connection with
  | none =>
    rw [found] at isReachable
    cases isReachable
  | some connection =>
    rw [found, Option.bind_some] at isReachable
    have listed : id.index < connection.statements.length := by
      refine Nat.lt_of_not_le fun beyond => ?_
      rw [List.getElem?_eq_none beyond] at isReachable
      cases isReachable
    have isAny : ((List.range connection.statements.length).any fun index =>
        session.isStatementReachable ⟨id.connection, index⟩) = true :=
      List.any_eq_true.mpr ⟨id.index, List.mem_range.mpr listed, reached⟩
    exact (congrArg _ isAny).trans (Bool.or_true _)

/-- A statement that is let go can still be reached, or else it is finalized. Its connection can
still be reached, or else it is closed. -/
theorem settleStatement_ends {id : StatementId}
    (careful : Careful (.any library) allowed conduct id.connection) :
    ((session.settleStatement conduct id).isStatementReachable id = true ∨
      (session.settleStatement conduct id).isFinalized id = true) ∧
    ((session.settleStatement conduct id).isConnectionReachable id.connection = true ∨
      (session.settleStatement conduct id).isClosed id.connection = true) := by
  unfold settleStatement
  split
  · rename_i isReachable
    exact ⟨.inl isReachable, .inl (isConnectionReachable_of_statement isReachable)⟩
  · refine ⟨.inr ?_, settleConnection_ends conduct _ _⟩
    rw [isFinalized_eq, state?_settleConnection, ← isFinalized_eq]
    unfold dropStatement
    split
    · rename_i isFinalized
      exact isFinalized
    · rename_i isLive
      exact careful.isFinalized_destroy (eq_false_of_ne_true isLive)

/-! ### Runs -/

/-- What the objects of a session come to. -/
structure ReleasedOnce (session : Session library) : Prop where
  /-- Every call is made on what is there, also the one that gives it back. -/
  orderly : Orderly session.log
  prompt : Prompt session.log
  /-- What a handle has open is still there, and everything else that was made is given back. -/
  balance (object : Native.Object) :
    makings object session.log = releases object session.log + if session.has object then 1 else 0
  statements : session.StatementsCounted

theorem Path.releasedOnce (path : Path motion allowed before after) (log : before.log = [])
    (connections : before.connections = []) : after.ReleasedOnce := by
  have unopened (id : Nat) : before.connection? id = none := by simp [connection?, connections]
  have start (object : Native.Object) : isThereIn object before.log = before.has object := by
    rw [log]
    cases object <;> simp [has, isClosed, isFinalized, statement?, unopened, isThereIn]
  have invariant : (∀ object, isThereIn object after.log = after.has object) ∧
      Orderly after.log ∧ Prompt after.log ∧ after.StatementsCounted := by
    induction path with
    | refl =>
      refine ⟨start, ?_, ?_, fun id => ?_⟩
      · rw [log]
        trivial
      · rw [log]
        intro _ _ _ _ _ suffix
        cases List.suffix_nil.mp suffix
      · rw [log, state?, statement?, unopened]
        rfl
    | tail _ turn ih =>
      obtain ⟨known, orderly, prompt, counted⟩ := ih
      exact ⟨turn.isThereIn_eq known, turn.orderly known orderly, turn.prompt prompt,
        turn.statementsCounted counted⟩
  obtain ⟨known, orderly, prompt, counted⟩ := invariant
  refine ⟨orderly, prompt, fun object => ?_, counted⟩
  rw [orderly.makings_eq, known]

theorem IsReachable.releasedOnce (reachable : session.IsReachable) : session.ReleasedOnce := by
  obtain ⟨limit, evolves⟩ := reachable
  exact (evolves.path (.any library)).releasedOnce rfl rfl

/-- A finalized statement was given back once. -/
theorem ReleasedOnce.releases_statement (released : session.ReleasedOnce) {id : StatementId}
    (finalized : session.state? id = some .finalized) :
    releases (.statement id) session.log = 1 := by
  have balance := released.balance (.statement id)
  rw [released.statements id, has, isFinalized_eq, finalized] at balance
  exact balance.symm

/-- Every connection is closed and every statement is finalized, be it on request or because they
were dropped. -/
def Ended (session : Session library) : Prop :=
  ∀ connection ∈ session.connections, connection.isClosed = true ∧
    ∀ statement ∈ connection.statements, statement.state = .finalized

instance (session : Session library) : Decidable session.Ended :=
  inferInstanceAs (Decidable (∀ connection ∈ session.connections, connection.isClosed = true ∧
    ∀ statement ∈ connection.statements, statement.state = .finalized))

theorem Ended.has_eq_false (ended : session.Ended) (object : Native.Object) :
    session.has object = false := by
  cases object with
  | connection id =>
    rw [has, isClosed]
    cases found : session.connection? id with
    | none => rfl
    | some connection =>
      dsimp only
      rw [(ended connection (List.mem_of_getElem? found)).1]
      rfl
  | statement id =>
    rw [has, isFinalized, statement?]
    cases found : session.connection? id.connection with
    | none => rfl
    | some connection =>
      rw [Option.bind_some]
      cases present : connection.statements[id.index]? with
      | none => rfl
      | some statement =>
        have finalized := (ended connection (List.mem_of_getElem? found)).2 statement
          (List.mem_of_getElem? present)
        simp [finalized]

/-- A statement that its last holder let go is finalized, and a connection that nothing leads to any
more is closed. -/
structure LetGo (session : Session library) (id : StatementId) : Prop where
  statement : session.isStatementReachable id = true ∨ session.isFinalized id = true
  connection : session.isConnectionReachable id.connection = true ∨
    session.isClosed id.connection = true

/-- Whatever callers and callbacks do, from a session without connections on. -/
theorem handles_released_once (reachable : session.IsReachable) :
    session.ReleasedOnce ∧
    (session.Ended → ∀ object, makings object session.log = releases object session.log) ∧
    (∀ conduct id, Keeps conduct (fun _ => True) id.connection →
      (session.releaseStatement conduct id).LetGo id ∧
      (session.settleStatement conduct id).LetGo id) ∧
    (∀ conduct id,
      ((session.releaseConnection conduct id).isConnectionReachable id = true ∨
        (session.releaseConnection conduct id).isClosed id = true) ∧
      ((session.settleConnection conduct id).isConnectionReachable id = true ∨
        (session.settleConnection conduct id).isClosed id = true)) := by
  have released := reachable.releasedOnce
  refine ⟨released, fun ended object => ?_, fun conduct id keeps => ?_, fun conduct id => ?_⟩
  · rw [released.balance object, ended.has_eq_false object]
    rfl
  · have careful : Careful (.any library) (fun _ => True) conduct id.connection :=
      keeps.careful (.any library) ⟨.releaseStatement id, trivial, rfl⟩
    exact ⟨⟨(settleStatement_ends careful).1, (settleStatement_ends careful).2⟩,
      (settleStatement_ends careful).1, (settleStatement_ends careful).2⟩
  · exact ⟨settleConnection_ends conduct _ id, settleConnection_ends conduct session id⟩

/-- A connection that is dropped before its statement is closed after it. -/
theorem handles_released_once_dropped :
    let session := (withCapacity (Native.scripted fun _ => Call.uneventful) 1).runAll []
      [.perform (.openWith .inMemory), .perform (.prepare 0 "SELECT 1"), .releaseConnection 0,
        .releaseStatement ⟨0, 0⟩]
    session.Ended ∧ makings (.statement ⟨0, 0⟩) session.log = 1 ∧
      makings (.connection 0) session.log = releases (.connection 0) session.log :=
  ⟨by decide, by decide, (handles_released_once (isReachable_runAll 1 [] _)).2.1 (by decide) _⟩

end Session

end SqliteBridge
