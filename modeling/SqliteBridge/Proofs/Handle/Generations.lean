import SqliteBridge.Proofs.Handle.Operation

/-! The generation of a slot counts its disposals, around a cycle: after as many
disposals as there are generations a slot is in the same generation again. A history
kept beside a table counts the disposals of each slot and has the tokens that were
given out. -/
namespace SqliteBridge.Handle.Table

variable {α : Type} {index slot : Nat} {table table' : Table α} {target : α} {token : Token}

/-- What a run has done so far. -/
structure History where
  /-- How often each slot was vacated. -/
  disposals : Nat → Nat
  /-- The tokens of all creations, newest first. -/
  issued : List Token

namespace History

def empty : History := ⟨fun _ => 0, []⟩

/-- The history after an operation that was answered. -/
def record (history : History) : Operation α → Answer α → History
  | .create _, .created (.ok token) => { history with issued := token :: history.issued }
  | .dispose token, .disposed true =>
    { history with disposals := fun slot =>
        if slot = token.index then history.disposals slot + 1 else history.disposals slot }
  | _, _ => history

end History

def observe (state : Table α × History) (operation : Operation α) : Table α × History :=
  let (answer, table) := state.1.perform operation
  (table, state.2.record operation answer)

/-- The table after a run, with the history of the run alone. -/
def after (table : Table α) (operations : List (Operation α)) : Table α × History :=
  operations.foldl observe (table, .empty)

/-- The generation of a slot that was vacated so many times. -/
def cycle (count : Nat) : Nat := count % maxGeneration + 1

theorem nextGeneration_cycle (count : Nat) : nextGeneration (cycle count) = cycle (count + 1) := by
  unfold nextGeneration cycle maxGeneration
  split <;> omega

theorem cycle_le (count : Nat) : cycle count ≤ maxGeneration := by
  unfold cycle maxGeneration
  omega

theorem cycle_eq_iff {first second : Nat} (ordered : first ≤ second) :
    cycle first = cycle second ↔ maxGeneration ∣ second - first := by
  unfold cycle maxGeneration
  omega

/-- A count after which a slot is in a given generation. -/
theorem cycle_pred {generation : Nat} (positive : 1 ≤ generation)
    (bounded : generation ≤ maxGeneration) : cycle (generation - 1) = generation := by
  unfold cycle
  unfold maxGeneration at *
  omega

/-! ### Counting disposals -/

/-- The generations of a table are those after the counted disposals, from a start at
which each slot had been vacated `origin` times. -/
structure Dated (origin : Nat → Nat) (state : Table α × History) : Prop where
  consistent : state.1.Consistent
  generationAt_eq : ∀ slot, state.1.generationAt slot = cycle (origin slot + state.2.disposals slot)

theorem dated_observe {origin : Nat → Nat} {state : Table α × History}
    (dated : Dated origin state) (operation : Operation α) :
    Dated origin (observe state operation) := by
  obtain ⟨table, history⟩ := state
  have consistent := dated.consistent
  cases operation with
  | create target =>
    rcases create_cases consistent target with ⟨_, _, refused⟩ | ⟨index, table', filled, created⟩
    · simpa [observe, perform, refused, History.record] using dated
    · simp only [observe, perform, created, History.record]
      exact ⟨filled.consistent, fun slot =>
        (filled.generationAt_eq slot).trans (dated.generationAt_eq slot)⟩
  | dispose token =>
    rcases dispose_cases consistent token with ⟨_, kept⟩ | ⟨_, table', _, vacated, disposed⟩
    · simpa [observe, perform, kept, History.record] using dated
    · simp only [observe, perform, disposed, History.record]
      refine ⟨vacated.consistent, fun slot => ?_⟩
      have before := dated.generationAt_eq slot
      simp only at before ⊢
      rw [vacated.generationAt_eq]
      split
      · rw [before, nextGeneration_cycle, Nat.add_assoc]
      · exact before
  | get _ | resolve _ | isDisposed _ | size | isEmpty => exact dated

theorem dated_foldl {origin : Nat → Nat} {state : Table α × History}
    (dated : Dated origin state) (operations : List (Operation α)) :
    Dated origin (operations.foldl observe state) := by
  induction operations generalizing state with
  | nil => exact dated
  | cons operation rest ih => exact ih (dated_observe dated operation)

theorem dated_after (consistent : table.Consistent) (operations : List (Operation α)) :
    Dated (fun slot => table.generationAt slot - 1) (table.after operations) := by
  refine dated_foldl ⟨consistent, fun slot => ?_⟩ operations
  have bounds := consistent.generation_bounds slot
  exact (cycle_pred bounds.1 bounds.2).symm

theorem dated_withCapacity (limit : Nat) (operations : List (Operation α)) :
    Dated (fun _ => 0) ((withCapacity limit).after operations) :=
  dated_foldl ⟨withCapacity_consistent limit, fun _ => by
    simp [generationAt, withCapacity, cycle, History.empty]⟩ operations

/-! ### The tokens given out -/

/-- Whether a slot has held a target after it was vacated so many times. -/
def WasUsed (state : Table α × History) (slot count : Nat) : Prop :=
  count < state.2.disposals slot ∨
    count = state.2.disposals slot ∧ ∃ target, state.1.targetAt slot = some target

theorem wasUsed_filled {history : History} (filled : Filled table index target table')
    (issued : List Token) (slot count : Nat) :
    WasUsed (table', { history with issued }) slot count ↔
      WasUsed (table, history) slot count ∨ slot = index ∧ count = history.disposals index := by
  simp only [WasUsed, filled.targetAt_eq]
  by_cases same : slot = index
  · subst same
    simp [filled.vacant]
  · simp [same]

theorem wasUsed_vacated {history : History} (live : table.get? token = some target)
    (vacated : Vacated table token.index table') (slot count : Nat) :
    WasUsed (table', history.record (.dispose token : Operation α) (.disposed true)) slot count ↔
      WasUsed (table, history) slot count := by
  simp only [WasUsed, History.record, vacated.targetAt_eq]
  by_cases same : slot = token.index
  · subst same
    simp [(get?_eq_some_iff.mp live).2]
    omega
  · simp [same]

/-- The tokens given out are those of all uses of all slots. -/
structure Recorded (state : Table α × History) : Prop where
  dated : Dated (fun _ => 0) state
  mem_issued : ∀ token, token ∈ state.2.issued ↔
    ∃ slot count, slot < maxSlots ∧ WasUsed state slot count ∧ token = .pack slot (cycle count)

theorem recorded_withCapacity (limit : Nat) :
    Recorded ((withCapacity limit : Table α), History.empty) where
  dated := dated_withCapacity limit []
  mem_issued token := by simp [WasUsed, History.empty, targetAt, withCapacity]

/-- The token of a creation, by the history of its slot. -/
theorem token_eq {history : History} (dated : Dated (fun _ => 0) (table, history)) (index : Nat) :
    Token.pack index (table.generationAt index) =
      .pack index (cycle (history.disposals index)) := by
  have generation := dated.generationAt_eq index
  simp only [Nat.zero_add] at generation
  rw [generation]

theorem recorded_observe {state : Table α × History} (recorded : Recorded state)
    (operation : Operation α) : Recorded (observe state operation) := by
  have dated := dated_observe recorded.dated operation
  refine ⟨dated, fun token => ?_⟩
  obtain ⟨table, history⟩ := state
  have member := recorded.mem_issued token
  cases operation with
  | create target =>
    rcases create_cases recorded.dated.consistent target with
      ⟨_, _, refused⟩ | ⟨index, table', filled, created⟩
    · simpa [observe, perform, refused, History.record] using member
    · simp only [observe, perform, created, History.record, List.mem_cons, member,
        wasUsed_filled filled, token_eq recorded.dated]
      constructor
      · rintro (issued | ⟨slot, count, inRange, used, packed⟩)
        · exact ⟨index, history.disposals index, filled.index_lt, .inr ⟨rfl, rfl⟩, issued⟩
        · exact ⟨slot, count, inRange, .inl used, packed⟩
      · rintro ⟨slot, count, inRange, used | ⟨rfl, rfl⟩, packed⟩
        · exact .inr ⟨slot, count, inRange, used, packed⟩
        · exact .inl packed
  | dispose disposedToken =>
    rcases dispose_cases recorded.dated.consistent disposedToken with
      ⟨_, kept⟩ | ⟨_, table', live, vacated, disposed⟩
    · simpa [observe, perform, kept, History.record] using member
    · simp only [observe, perform, disposed, wasUsed_vacated live vacated]
      exact member
  | get _ | resolve _ | isDisposed _ | size | isEmpty => exact member

/-- A creation repeats a token that was given out before exactly when its slot has been
through all generations. -/
theorem token_mem_issued_iff {history : History} (recorded : Recorded (table, history))
    (filled : Filled table index target table') :
    Token.pack index (table.generationAt index) ∈ history.issued ↔
      maxGeneration ≤ history.disposals index := by
  rw [recorded.mem_issued, token_eq recorded.dated]
  constructor
  · rintro ⟨slot, count, inRange, used, packed⟩
    have sameIndex := congrArg Token.index packed
    rw [Token.index_pack filled.index_lt (cycle_le _), Token.index_pack inRange (cycle_le _)]
      at sameIndex
    subst sameIndex
    have sameGeneration := congrArg Token.generation packed
    rw [Token.generation_pack inRange (cycle_le _), Token.generation_pack inRange (cycle_le _)]
      at sameGeneration
    have earlier : count < history.disposals index := by
      simpa [WasUsed, filled.vacant] using used
    have divides := (cycle_eq_iff (Nat.le_of_lt earlier)).mp sameGeneration.symm
    exact Nat.le_trans (Nat.le_of_dvd (Nat.sub_pos_of_lt earlier) divides) (Nat.sub_le _ _)
  · intro enough
    have earlier : history.disposals index - maxGeneration < history.disposals index :=
      Nat.sub_lt (Nat.lt_of_lt_of_le (by decide) enough) (by decide)
    have same : cycle (history.disposals index - maxGeneration) =
        cycle (history.disposals index) :=
      (cycle_eq_iff (Nat.sub_le _ _)).mpr ⟨1, by rw [Nat.sub_sub_self enough, Nat.mul_one]⟩
    exact ⟨index, _, filled.index_lt, .inl earlier, congrArg (Token.pack index) same.symm⟩

end SqliteBridge.Handle.Table
