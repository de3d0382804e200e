import SqliteBridge.Proofs.Handle.Generations

/-! Rounds of creation and disposal. A slot that was freed last is taken next, so all rounds go
through one slot and move it from generation to generation; their end can be told without running
them. -/
namespace SqliteBridge.Handle.Table

variable {α : Type} {table : Table α} {index : Nat} {target : α}

/-- A table whose next token is for a vacant slot that was freed before, in the generation after
`count` disposals. -/
structure Recycles (table : Table α) (index count : Nat) : Prop where
  inRange : index < maxSlots
  found : table.slots[index]? = some ⟨cycle count, none⟩
  freed : ∃ rest, table.free = index :: rest

/-- The table with the slot in another generation. -/
def turned (table : Table α) (index count : Nat) : Table α :=
  { table with slots := table.slots.setIfInBounds index ⟨cycle count, none⟩ }

namespace Recycles

variable {count : Nat} (recycles : Recycles table index count)

include recycles

theorem turned_self : table.turned index count = table := by
  obtain ⟨bound, found⟩ := Array.getElem?_eq_some_iff.mp recycles.found
  rw [turned, Array.setIfInBounds_def, dif_pos bound, ← found, Array.set_getElem_self]

theorem turned (next : Nat) : Recycles (table.turned index next) index next where
  inRange := recycles.inRange
  found := by
    obtain ⟨bound, -⟩ := Array.getElem?_eq_some_iff.mp recycles.found
    exact Array.getElem?_setIfInBounds_self_of_lt bound
  freed := recycles.freed

/-- One round moves the slot to its next generation. -/
theorem round (target : α) : ∃ created,
    table.create target = (.ok (.pack index (cycle count)), created) ∧
      created.dispose (.pack index (cycle count)) = (true, table.turned index (count + 1)) := by
  obtain ⟨rest, freed⟩ := recycles.freed
  obtain ⟨bound, -⟩ := Array.getElem?_eq_some_iff.mp recycles.found
  have indexed := Token.index_pack recycles.inRange (cycle_le count)
  have generation := Token.generation_pack recycles.inRange (cycle_le count)
  refine ⟨{ table with
    slots := table.slots.setIfInBounds index ⟨cycle count, some target⟩
    free := rest
    live := table.live + 1 }, ?_, ?_⟩
  · simp [create, vacate?, freed, recycles.found]
  · simp [dispose, indexed, generation, bound, nextGeneration_cycle, freed, Table.turned]

theorem rounds_eq (target : α) (more : Nat) : table.rounds target more =
    (.ok (if more = 0 then none else some (.pack index (cycle (count + more - 1)))),
      table.turned index (count + more)) := by
  induction more generalizing table count with
  | zero =>
    rw [rounds, if_pos rfl, Nat.add_zero, recycles.turned_self]
  | succ more ih =>
    obtain ⟨created, create, dispose⟩ := recycles.round target
    rw [rounds, create]
    dsimp only
    rw [dispose, ih (recycles.turned (count + 1))]
    have place : count + 1 + more = count + (more + 1) := by omega
    have again : (table.turned index (count + 1)).turned index (count + 1 + more) =
        table.turned index (count + (more + 1)) := by
      simp [Table.turned, place]
    rw [again]
    cases more with
    | zero => rfl
    | succ more => rw [if_neg (Nat.succ_ne_zero _), if_neg (Nat.succ_ne_zero _), place]

end Recycles

/-- After the first round its slot is recycled. -/
theorem recycles_of_filled (consistent : table.Consistent) {created : Table α}
    (filled : Filled table index target created) :
    Recycles (created.dispose (.pack index (table.generationAt index))).2 index
      (table.generationAt index) := by
  have bounds := consistent.generation_bounds index
  have inRange := Nat.lt_of_lt_of_le filled.lt_capacity consistent.capacity_le
  have generation : created.generationAt index = table.generationAt index :=
    filled.generationAt_eq index
  have occupied : created.targetAt index = some target := by
    rw [filled.targetAt_eq, if_pos rfl]
  have bound := lt_size_of_targetAt occupied
  have found : created.slots[index]? = some ⟨table.generationAt index, some target⟩ := by
    rw [← generation, ← occupied, Array.getElem?_eq_getElem bound]
    simp [generationAt, targetAt, bound]
  have next : nextGeneration (table.generationAt index) = cycle (table.generationAt index) := by
    have step := nextGeneration_cycle (table.generationAt index - 1)
    rwa [cycle_pred bounds.1 bounds.2, Nat.sub_add_cancel bounds.1] at step
  have indexed := Token.index_pack inRange bounds.2
  have disposed : created.dispose (.pack index (table.generationAt index)) = (true,
      { created with
        slots := created.slots.setIfInBounds index ⟨cycle (table.generationAt index), none⟩
        free := index :: created.free
        live := created.live - 1 }) := by
    rw [dispose, indexed, found]
    dsimp only
    rw [if_pos ⟨(Token.generation_pack inRange bounds.2).symm, rfl⟩, next]
  rw [disposed]
  exact ⟨inRange, Array.getElem?_setIfInBounds_self_of_lt bound, created.free, rfl⟩

/-- The rounds at once are the rounds one by one. -/
theorem roundsAtOnce_eq_rounds (consistent : table.Consistent) (target : α) (count : Nat) :
    table.roundsAtOnce target count = table.rounds target count := by
  cases count with
  | zero => rfl
  | succ count =>
    rcases create_cases consistent target with ⟨-, -, refused⟩ | ⟨index, created, filled, made⟩
    · rw [roundsAtOnce, rounds, refused]
    · have bounds := consistent.generation_bounds index
      have inRange := Nat.lt_of_lt_of_le filled.lt_capacity consistent.capacity_le
      have recycles := recycles_of_filled consistent filled
      rw [roundsAtOnce, rounds, made]
      dsimp only
      rw [recycles.rounds_eq, Token.index_pack inRange bounds.2,
        Token.generation_pack inRange bounds.2]
      generalize (created.dispose (.pack index (table.generationAt index))).2 = table'
      change (Except.ok (some (Token.pack index (cycle (table.generationAt index - 1 + count)))),
        table'.turned index (table.generationAt index - 1 + (count + 1))) = _
      have last : table.generationAt index - 1 + (count + 1) = table.generationAt index + count := by
        omega
      rw [last]
      cases count with
      | zero =>
        rw [if_pos rfl, Nat.add_zero, cycle_pred bounds.1 bounds.2]
      | succ count =>
        have before : table.generationAt index - 1 + (count + 1) =
            table.generationAt index + (count + 1) - 1 := by omega
        rw [if_neg (Nat.succ_ne_zero _), before]

end SqliteBridge.Handle.Table
