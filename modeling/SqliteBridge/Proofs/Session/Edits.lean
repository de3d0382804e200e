import SqliteBridge.Proofs.Session.Calls
import SqliteBridge.Session.Tokens

/-! What the edits of a session leave alone. -/
namespace SqliteBridge.Session

open Native (Call Library)

variable {library : Library} (session : Session library)

/-! ### The record and the callbacks -/

section Noted

variable (event : Event) (call : Call) (result : call.Result) (world : library.World)

@[simp] theorem connectionTokens_record :
    (session.record event).connectionTokens = session.connectionTokens := rfl
@[simp] theorem statementTokens_record :
    (session.record event).statementTokens = session.statementTokens := rfl
@[simp] theorem connections_record :
    (session.record event).connections = session.connections := rfl
@[simp] theorem callbacks_record : (session.record event).callbacks = session.callbacks := rfl
@[simp] theorem log_record : (session.record event).log = event :: session.log := rfl
@[simp] theorem world_record : (session.record event).world = session.world := rfl

@[simp] theorem connectionTokens_returned :
    (session.returned call result world).connectionTokens = session.connectionTokens := rfl
@[simp] theorem statementTokens_returned :
    (session.returned call result world).statementTokens = session.statementTokens := rfl
@[simp] theorem connections_returned :
    (session.returned call result world).connections = session.connections := rfl
@[simp] theorem callbacks_returned :
    (session.returned call result world).callbacks = session.callbacks := rfl
@[simp] theorem log_returned :
    (session.returned call result world).log = .leaves call result :: session.log := rfl
@[simp] theorem world_returned : (session.returned call result world).world = world := rfl

@[simp] theorem connectionTokens_called :
    (session.called call result world).connectionTokens = session.connectionTokens := rfl
@[simp] theorem statementTokens_called :
    (session.called call result world).statementTokens = session.statementTokens := rfl
@[simp] theorem connections_called :
    (session.called call result world).connections = session.connections := rfl
@[simp] theorem callbacks_called :
    (session.called call result world).callbacks = session.callbacks := rfl
@[simp] theorem log_called :
    (session.called call result world).log = .leaves call result :: .enters call :: session.log :=
  rfl
@[simp] theorem world_called : (session.called call result world).world = world := rfl

variable (address? : Option Nat) (callback? : Option Callback)

@[simp] theorem connections_dropCallback :
    (session.dropCallback address?).connections = session.connections := by cases address? <;> rfl
@[simp] theorem log_dropCallback :
    (session.dropCallback address?).log = session.log := by cases address? <;> rfl
@[simp] theorem world_dropCallback :
    (session.dropCallback address?).world = session.world := by cases address? <;> rfl
@[simp] theorem connectionTokens_dropCallback :
    (session.dropCallback address?).connectionTokens = session.connectionTokens := by
  cases address? <;> rfl
@[simp] theorem statementTokens_dropCallback :
    (session.dropCallback address?).statementTokens = session.statementTokens := by
  cases address? <;> rfl

@[simp] theorem connections_box :
    (session.box callback?).2.connections = session.connections := by cases callback? <;> rfl
@[simp] theorem log_box : (session.box callback?).2.log = session.log := by
  cases callback? <;> rfl
@[simp] theorem world_box : (session.box callback?).2.world = session.world := by
  cases callback? <;> rfl
@[simp] theorem connectionTokens_box :
    (session.box callback?).2.connectionTokens = session.connectionTokens := by
  cases callback? <;> rfl
@[simp] theorem statementTokens_box :
    (session.box callback?).2.statementTokens = session.statementTokens := by
  cases callback? <;> rfl

end Noted

@[simp] theorem connections_updateConnection (id : Nat)
    (edit : ConnectionHandle → ConnectionHandle) :
    (session.updateConnection id edit).connections = session.connections.modify id edit := rfl
@[simp] theorem callbacks_updateConnection (id : Nat)
    (edit : ConnectionHandle → ConnectionHandle) :
    (session.updateConnection id edit).callbacks = session.callbacks := rfl
@[simp] theorem log_updateConnection (id : Nat) (edit : ConnectionHandle → ConnectionHandle) :
    (session.updateConnection id edit).log = session.log := rfl
@[simp] theorem world_updateConnection (id : Nat) (edit : ConnectionHandle → ConnectionHandle) :
    (session.updateConnection id edit).world = session.world := rfl
@[simp] theorem connectionTokens_updateConnection (id : Nat)
    (edit : ConnectionHandle → ConnectionHandle) :
    (session.updateConnection id edit).connectionTokens = session.connectionTokens := rfl
@[simp] theorem statementTokens_updateConnection (id : Nat)
    (edit : ConnectionHandle → ConnectionHandle) :
    (session.updateConnection id edit).statementTokens = session.statementTokens := rfl

theorem connection?_congr {first second : Session library}
    (same : first.connections = second.connections) (id : Nat) :
    first.connection? id = second.connection? id := by
  rw [connection?, connection?, same]

theorem isClosed_congr {first second : Session library}
    (same : first.connections = second.connections) (id : Nat) :
    first.isClosed id = second.isClosed id := by
  rw [isClosed, isClosed, connection?_congr same]

theorem isFinalized_congr {first second : Session library}
    (same : first.connections = second.connections) (id : StatementId) :
    first.isFinalized id = second.isFinalized id := by
  rw [isFinalized, isFinalized, statement?, statement?, connection?_congr same]

/-! ### Handles -/

section Handles

variable (id : Nat) (edit : ConnectionHandle → ConnectionHandle)

theorem connection?_updateConnection (other : Nat) :
    (session.updateConnection id edit).connection? other =
      if id = other then (session.connection? other).map edit else session.connection? other := by
  simp only [updateConnection, connection?, List.getElem?_modify]
  split <;> simp

@[simp] theorem connection?_updateConnection_self :
    (session.updateConnection id edit).connection? id = (session.connection? id).map edit := by
  rw [connection?_updateConnection, if_pos rfl]

theorem connection?_updateConnection_of_ne {id other : Nat} (apart : other ≠ id)
    (edit : ConnectionHandle → ConnectionHandle) :
    (session.updateConnection id edit).connection? other = session.connection? other := by
  rw [connection?_updateConnection, if_neg (Ne.symm apart)]

@[simp] theorem length_updateConnection :
    (session.updateConnection id edit).connections.length = session.connections.length := by
  simp [updateConnection]

end Handles

section Statements

variable (id : StatementId) (edit : StatementHandle → StatementHandle)

theorem statement?_updateStatement (other : StatementId) :
    (session.updateStatement id edit).statement? other =
      if id = other then (session.statement? other).map edit else session.statement? other := by
  obtain ⟨connection, index⟩ := id
  obtain ⟨otherConnection, otherIndex⟩ := other
  simp only [statement?, updateStatement, connection?_updateConnection, StatementId.mk.injEq]
  by_cases same : connection = otherConnection
  · subst same
    cases session.connection? connection with
    | none => simp
    | some handle =>
      simp only [if_true, Option.map_some, Option.bind_some, List.getElem?_modify, true_and]
      split
      · rfl
      · simp
  · simp [same]

@[simp] theorem statement?_updateStatement_self :
    (session.updateStatement id edit).statement? id = (session.statement? id).map edit := by
  rw [statement?_updateStatement, if_pos rfl]

theorem statement?_updateStatement_of_ne {id other : StatementId} (apart : other ≠ id)
    (edit : StatementHandle → StatementHandle) :
    (session.updateStatement id edit).statement? other = session.statement? other := by
  rw [statement?_updateStatement, if_neg (Ne.symm apart)]

/-- An edit that keeps the flag keeps every connection as open as it was. -/
theorem isClosed_updateConnection (id other : Nat) (edit : ConnectionHandle → ConnectionHandle)
    (keeps : ∀ connection, (edit connection).isClosed = connection.isClosed) :
    (session.updateConnection id edit).isClosed other = session.isClosed other := by
  simp only [isClosed, connection?_updateConnection]
  by_cases same : id = other
  · rw [if_pos same]
    cases session.connection? other with
    | none => rfl
    | some connection => exact keeps connection
  · rw [if_neg same]

@[simp] theorem isClosed_updateStatement (other : Nat) :
    (session.updateStatement id edit).isClosed other = session.isClosed other :=
  session.isClosed_updateConnection _ other _ fun _ => rfl

/-- An edit that keeps the statements keeps every statement. -/
theorem statement?_updateConnection (id : Nat) {edit : ConnectionHandle → ConnectionHandle}
    (keeps : ∀ connection, (edit connection).statements = connection.statements)
    (other : StatementId) :
    (session.updateConnection id edit).statement? other = session.statement? other := by
  rw [statement?, statement?, connection?_updateConnection]
  split
  · cases session.connection? other.connection <;> simp [keeps]
  · rfl

end Statements

/-! ### Guards -/

theorem isClosed_eq_false_iff {id : Nat} :
    session.isClosed id = false ↔
      ∃ connection, session.connection? id = some connection ∧ connection.isClosed = false := by
  rw [isClosed]
  cases session.connection? id <;> simp

theorem isFinalized_eq_false_iff {id : StatementId} :
    session.isFinalized id = false ↔
      ∃ statement, session.statement? id = some statement ∧ statement.state ≠ .finalized := by
  rw [isFinalized]
  cases session.statement? id <;> simp

theorem isClosed_markClosed (id : Nat) : (session.markClosed id).isClosed id = true := by
  rw [isClosed, markClosed, connection?_updateConnection_self]
  cases session.connection? id <;> rfl

theorem isFinalized_setState (id : StatementId) :
    (session.setState id .finalized).isFinalized id = true := by
  rw [isFinalized, setState, statement?_updateStatement_self]
  cases session.statement? id <;> simp

end Session

end SqliteBridge
