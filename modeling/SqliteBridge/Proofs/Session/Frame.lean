import SqliteBridge.Proofs.Handle.Population
import SqliteBridge.Proofs.Session.Turns

/-! Turns about other connections. What belongs to a connection that is not touched stays as it
is, and no call about it is made. -/
namespace SqliteBridge

open Native (Call Library)

/-- The connection that an event is about. -/
def Event.connection : Event → Nat
  | enters call => call.connection
  | leaves call _ => call.connection
  | asks connection _ _ _ => connection
  | answers connection _ => connection

namespace Session

variable {library : Library} {motion : Motion library} {allowed : Act → Prop}
  {session before after : Session library} {id : Nat}

theorem touched_of_ends {id : StatementId} (ends : ∃ act, allowed act ∧ act.Ends id) :
    Touched allowed id.connection := by
  obtain ⟨act, isAllowed, rfl | rfl | rfl⟩ := ends <;> exact ⟨_, isAllowed, rfl⟩

/-- A connection that was opened and its statements, as far as a session keeps them. -/
structure SameHandles (id : Nat) (first second : Session library) : Prop where
  connection : second.connection? id = first.connection? id
  connectionToken : second.connectionTokens.reference id = first.connectionTokens.reference id
  statementToken (index : Nat) :
    second.statementTokens.reference ⟨id, index⟩ = first.statementTokens.reference ⟨id, index⟩

namespace SameHandles

theorem refl : SameHandles id session session := ⟨rfl, rfl, fun _ => rfl⟩

theorem trans {first second third : Session library} (early : SameHandles id first second)
    (late : SameHandles id second third) : SameHandles id first third :=
  ⟨late.connection.trans early.connection, late.connectionToken.trans early.connectionToken,
    fun index => (late.statementToken index).trans (early.statementToken index)⟩

theorem isClosed (same : SameHandles id before after) : after.isClosed id = before.isClosed id := by
  rw [Session.isClosed, Session.isClosed, same.connection]

theorem statement (same : SameHandles id before after) (index : Nat) :
    after.statement? ⟨id, index⟩ = before.statement? ⟨id, index⟩ := by
  rw [statement?, statement?, same.connection]

theorem isFinalized (same : SameHandles id before after) (index : Nat) :
    after.isFinalized ⟨id, index⟩ = before.isFinalized ⟨id, index⟩ := by
  rw [Session.isFinalized, Session.isFinalized, same.statement]

/-- An edit of another connection. -/
theorem of_modify {other : Nat} (apart : id ≠ other) {edit : ConnectionHandle → ConnectionHandle}
    (connections : after.connections = before.connections.modify other edit)
    (connectionTokens : after.connectionTokens = before.connectionTokens)
    (statementTokens : after.statementTokens = before.statementTokens) :
    SameHandles id before after :=
  ⟨by simp [connection?, connections, Ne.symm apart],
    by rw [connectionTokens], fun _ => by rw [statementTokens]⟩

/-- A change of the library, of the record and of the callbacks alone. -/
theorem of_eq (connections : after.connections = before.connections)
    (connectionTokens : after.connectionTokens = before.connectionTokens)
    (statementTokens : after.statementTokens = before.statementTokens) :
    SameHandles id before after :=
  ⟨connection?_congr connections id, by rw [connectionTokens], fun _ => by rw [statementTokens]⟩

end SameHandles

theorem SameHandles.of_attempt {path : String} {flags : Int32} {opening : Native.Opening}
    (attempt : before.Attempt path flags opening after) : SameHandles id before after :=
  .of_eq attempt.connections attempt.connectionTokens attempt.statementTokens

/-- Adding a connection at the end. -/
theorem SameHandles.of_addConnection (path : String) (isOld : id < session.connections.length) :
    SameHandles id session (session.addConnection path) :=
  ⟨List.getElem?_append_left isOld, rfl, fun _ => rfl⟩

theorem Turn.length_le (turn : Turn motion allowed before after) :
    before.connections.length ≤ after.connections.length := by
  cases turn with
  | opens _ _ _ _ attempt => simp [addConnection, attempt.connections]
  | fails _ _ _ _ attempt => exact attempt.connections ▸ Nat.le_refl _
  | steps | resets | prepares | destroys | closes | authorizes | declines | releasesConnection
  | releasesStatement =>
    simp [setState, updateStatement, addStatement, setAddress, markClosed]
  | _ => exact Nat.le_refl _

/-- Only a connection that is touched gets a token or loses it. -/
theorem Turn.references_eq (turn : Turn motion allowed before after)
    (untouched : ¬Touched allowed id) :
    after.connectionTokens.reference id = before.connectionTokens.reference id ∧
      ∀ index, after.statementTokens.reference ⟨id, index⟩ =
        before.statementTokens.reference ⟨id, index⟩ := by
  have apart {other : Nat} (touched : Touched allowed other) : id ≠ other :=
    fun same => untouched (same ▸ touched)
  have apart' {index : Nat} {other : StatementId} (touched : Touched allowed other.connection) :
      ⟨id, index⟩ ≠ other := fun same => apart touched (congrArg StatementId.connection same)
  cases turn with
  | connectionToken other issues =>
    exact ⟨Handle.Population.reference_toToken_of_ne _ (apart ⟨_, issues, rfl⟩), fun _ => rfl⟩
  | statementToken other issues =>
    exact ⟨rfl, fun _ => Handle.Population.reference_toToken_of_ne _ (apart' ⟨_, issues, rfl⟩)⟩
  | disposesConnection other touched =>
    exact ⟨(Handle.Population.reference_disposeToken _ _ _).trans (if_neg (apart touched)),
      fun _ => rfl⟩
  | disposesStatement other touched =>
    exact ⟨rfl, fun _ => (Handle.Population.reference_disposeToken _ _ _).trans
      (if_neg (apart' touched))⟩
  | opens path flags opening opened attempt =>
    exact ⟨congrArg (fun tokens => tokens.reference id) attempt.connectionTokens,
      fun index => congrArg (fun tokens => tokens.reference ⟨id, index⟩) attempt.statementTokens⟩
  | fails path flags opening opened attempt =>
    exact ⟨congrArg (fun tokens => tokens.reference id) attempt.connectionTokens,
      fun index => congrArg (fun tokens => tokens.reference ⟨id, index⟩) attempt.statementTokens⟩
  | closes | authorizes | declines => simp [setAddress, markClosed]
  | _ => exact ⟨rfl, fun _ => rfl⟩

/-- A turn that does not touch a connection. -/
theorem Turn.sameHandles (turn : Turn motion allowed before after)
    (untouched : ¬Touched allowed id) (isOld : id < before.connections.length) :
    SameHandles id before after := by
  have apart {other : Nat} (touched : Touched allowed other) : id ≠ other :=
    fun same => untouched (same ▸ touched)
  have references := turn.references_eq untouched
  cases turn with
  | enters | leaves | asks | answers => exact ⟨rfl, rfl, fun _ => rfl⟩
  | steps _ _ _ touched | resets _ _ _ touched | prepares _ _ _ _ touched =>
    exact .of_modify (apart touched) rfl rfl rfl
  | releasesConnection _ touched | releasesStatement _ touched =>
    exact .of_modify (apart touched) rfl rfl rfl
  | destroys _ ends => exact .of_modify (apart (touched_of_ends ends)) rfl rfl rfl
  | opens path _ _ _ attempt =>
    exact (SameHandles.of_attempt attempt).trans
      (.of_addConnection path (attempt.connections ▸ isOld))
  | fails _ _ _ _ attempt => exact .of_attempt attempt
  | closes other _ _ _ _ touched =>
    have marked : SameHandles id before (before.markClosed other) :=
      .of_modify (apart touched) rfl rfl rfl
    exact marked.trans (.of_modify (apart touched) (by simp [setAddress]; rfl)
      (by simp [setAddress]) (by simp [setAddress]))
  | authorizes _ _ _ sets =>
    exact .of_modify (apart ⟨_, sets, rfl⟩) (by simp [setAddress]; rfl) (by simp [setAddress])
      (by simp [setAddress])
  | declines => exact .of_eq (by simp) (by simp) (by simp)
  | connectionToken | statementToken | disposesConnection | disposesStatement =>
    exact ⟨rfl, references.1, references.2⟩

theorem Path.length_le (path : Path motion allowed before after) :
    before.connections.length ≤ after.connections.length := by
  induction path with
  | refl => exact Nat.le_refl _
  | tail _ turn ih => exact Nat.le_trans ih turn.length_le

/-- A path that does not touch a connection. -/
theorem Path.sameHandles (path : Path motion allowed before after)
    (untouched : ¬Touched allowed id) (isOld : id < before.connections.length) :
    SameHandles id before after ∧ id < after.connections.length := by
  induction path with
  | refl => exact ⟨.refl, isOld⟩
  | tail _ turn ih =>
    exact ⟨ih.1.trans (turn.sameHandles untouched ih.2), Nat.lt_of_lt_of_le ih.2 turn.length_le⟩

end Session

end SqliteBridge
