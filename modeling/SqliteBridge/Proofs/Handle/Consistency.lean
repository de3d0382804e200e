import SqliteBridge.Handle.Table
import SqliteBridge.Proofs.Handle.Packing

/-! A table seen slot by slot: the target that a slot holds and the generation that it
is in. A creation fills one vacant slot and leaves every generation as it is; a
disposal vacates one slot and moves it to its next generation. Everything else about
a table follows from these two views and from an invariant that ties the free list
and the counter of live tokens to them. -/
namespace SqliteBridge.Handle

theorem nextGeneration_bounds (generation : Nat) :
    1 ≤ nextGeneration generation ∧ nextGeneration generation ≤ maxGeneration := by
  unfold nextGeneration maxGeneration
  split <;> omega

namespace Table

variable {α : Type} {table table' : Table α} {index : Nat} {target : α}

/-- What a slot holds. A slot that was never opened is vacant. -/
def targetAt (table : Table α) (index : Nat) : Option α := table.slots[index]?.bind Slot.target?

/-- The generation of a slot. A slot is opened in the first generation. -/
def generationAt (table : Table α) (index : Nat) : Nat :=
  (table.slots[index]?.map Slot.generation).getD 1

/-- The free list has every vacant slot once, and the counter counts the others. -/
structure Consistent (table : Table α) : Prop where
  capacity_le : table.capacity ≤ maxSlots
  size_le : table.slots.size ≤ table.capacity
  generation_bounds : ∀ index,
    1 ≤ table.generationAt index ∧ table.generationAt index ≤ maxGeneration
  free_nodup : table.free.Nodup
  mem_free : ∀ index, index ∈ table.free ↔ index < table.slots.size ∧ table.targetAt index = none
  live_add_free : table.live + table.free.length = table.slots.size

theorem targetAt_of_size_le (outside : table.slots.size ≤ index) : table.targetAt index = none := by
  simp [targetAt, Array.getElem?_eq_none outside]

theorem lt_size_of_targetAt (occupied : table.targetAt index = some target) :
    index < table.slots.size := by
  apply Nat.lt_of_not_le
  intro outside
  rw [targetAt_of_size_le outside] at occupied
  contradiction

theorem get?_eq (table : Table α) (token : Token) :
    table.get? token =
      if table.generationAt token.index = token.generation then table.targetAt token.index
      else none := by
  unfold get? targetAt generationAt
  cases table.slots[token.index]? with
  | none => simp
  | some slot => rfl

theorem withCapacity_consistent (limit : Nat) : (withCapacity limit : Table α).Consistent where
  capacity_le := Nat.min_le_right _ _
  size_le := Nat.zero_le _
  generation_bounds _ := by simp [generationAt, withCapacity, maxGeneration]
  free_nodup := List.nodup_nil
  mem_free _ := by simp [withCapacity]
  live_add_free := rfl

theorem get?_withCapacity (limit : Nat) (token : Token) :
    (withCapacity limit : Table α).get? token = none := by
  simp [get?, withCapacity]

/-! ### Creation -/

/-- `table'` is `table` with a target in one of its vacant slots. -/
structure Filled (table : Table α) (index : Nat) (target : α) (table' : Table α) : Prop where
  vacant : table.targetAt index = none
  lt_capacity : index < table.capacity
  capacity_eq : table'.capacity = table.capacity
  live_eq : table'.live = table.live + 1
  targetAt_eq : ∀ other,
    table'.targetAt other = if other = index then some target else table.targetAt other
  generationAt_eq : ∀ other, table'.generationAt other = table.generationAt other
  consistent : table'.Consistent

/-- The slot of a target that is stored in place of a vacant one. -/
theorem filled_of_slots (consistent : table.Consistent) (slots : Array (Slot α)) (free : List Nat)
    (lt_capacity : index < table.capacity) (vacant : table.targetAt index = none)
    (nodup : free.Nodup)
    (mem : ∀ other, other ∈ free ↔ other ≠ index ∧ other < slots.size ∧ table.targetAt other = none)
    (length : table.live + 1 + free.length = slots.size) (size : slots.size ≤ table.capacity)
    (slot : ∀ other, slots[other]? =
      if other = index then some ⟨table.generationAt index, some target⟩ else table.slots[other]?) :
    Filled table index target { table with slots, free, live := table.live + 1 } := by
  have targets : ∀ other, targetAt { table with slots, free, live := table.live + 1 } other =
      if other = index then some target else table.targetAt other := by
    intro other
    simp only [targetAt, slot]
    split <;> rfl
  have generations : ∀ other,
      generationAt { table with slots, free, live := table.live + 1 } other =
        table.generationAt other := by
    intro other
    simp only [generationAt, slot]
    split
    · rename_i same
      subst same
      rfl
    · rfl
  refine ⟨vacant, lt_capacity, rfl, rfl, targets, generations, ?_⟩
  exact
    { capacity_le := consistent.capacity_le
      size_le := size
      generation_bounds := fun other => generations other ▸ consistent.generation_bounds other
      free_nodup := nodup
      mem_free := fun other => by
        rw [mem, targets]
        by_cases same : other = index <;> simp [same]
      live_add_free := length }

/-- A creation is refused by a full table, which stays as it was; otherwise it fills a
vacant slot and returns the token of that slot in its present generation. -/
theorem create_cases (consistent : table.Consistent) (target : α) :
    (table.free = [] ∧ table.slots.size = table.capacity ∧
      table.create target = (.error (.exhausted table.capacity), table)) ∨
    ∃ index table', Filled table index target table' ∧
      table.create target = (.ok (.pack index (table.generationAt index)), table') := by
  cases freeList : table.free with
  | cons index rest =>
    obtain ⟨inRange, vacant⟩ := (consistent.mem_free index).mp (by simp [freeList])
    have nodup := List.nodup_cons.mp (freeList ▸ consistent.free_nodup)
    have found : table.slots[index]? = some table.slots[index] := Array.getElem?_eq_getElem inRange
    have generation : table.generationAt index = table.slots[index].generation := by
      simp [generationAt, found]
    refine .inr ⟨index, _, filled_of_slots consistent
      (table.slots.setIfInBounds index ⟨table.generationAt index, some target⟩) rest
      (Nat.lt_of_lt_of_le inRange consistent.size_le) vacant nodup.2 ?_ ?_ ?_ ?_, ?_⟩
    · intro other
      have member := consistent.mem_free other
      rw [freeList, List.mem_cons] at member
      rw [Array.size_setIfInBounds]
      constructor
      · intro inRest
        exact ⟨fun same => nodup.1 (same ▸ inRest), member.mp (.inr inRest)⟩
      · rintro ⟨different, free⟩
        exact (member.mpr free).resolve_left different
    · have count := consistent.live_add_free
      rw [freeList, List.length_cons] at count
      rw [Array.size_setIfInBounds]
      omega
    · simpa using consistent.size_le
    · intro other
      rw [Array.getElem?_setIfInBounds]
      by_cases same : other = index
      · subst same
        simp [inRange]
      · simp [same, Ne.symm same]
    · simp [create, vacate?, freeList, found, generation]
  | nil =>
    by_cases room : table.slots.size < table.capacity
    · have generation : table.generationAt table.slots.size = 1 := by simp [generationAt]
      refine .inr ⟨table.slots.size, _, filled_of_slots consistent
        ((table.slots.push ⟨1, none⟩).setIfInBounds table.slots.size ⟨1, some target⟩) [] room
        (targetAt_of_size_le (Nat.le_refl _)) List.nodup_nil ?_ ?_ ?_ ?_, ?_⟩
      · intro other
        have member := consistent.mem_free other
        simp only [freeList, List.not_mem_nil, false_iff, not_and] at member ⊢
        intro different inRange
        rw [Array.size_setIfInBounds, Array.size_push] at inRange
        exact member (by omega)
      · have count := consistent.live_add_free
        simp only [freeList, List.length_nil] at count ⊢
        rw [Array.size_setIfInBounds, Array.size_push]
        omega
      · rw [Array.size_setIfInBounds, Array.size_push]
        omega
      · intro other
        rw [Array.getElem?_setIfInBounds, Array.getElem?_push, generation]
        by_cases same : other = table.slots.size
        · simp [same]
        · simp [same, Ne.symm same]
      · simp [create, vacate?, freeList, room, generation]
    · have full : table.slots.size = table.capacity :=
        Nat.le_antisymm consistent.size_le (Nat.le_of_not_lt room)
      exact .inl ⟨rfl, full, by simp [create, vacate?, freeList, room]⟩

/-- A table is full when as many tokens are live as it has slots. -/
theorem create_refused_iff (consistent : table.Consistent) (target : α) :
    (table.create target).1 = .error (.exhausted table.capacity) ↔ table.live = table.capacity := by
  have count := consistent.live_add_free
  rcases create_cases consistent target with
    ⟨free, full, refused⟩ | ⟨index, table', filled, created⟩
  · rw [free, List.length_nil] at count
    simp only [refused, true_iff]
    omega
  · have room := filled.consistent.live_add_free
    have size := filled.consistent.size_le
    rw [filled.live_eq] at room
    rw [filled.capacity_eq] at size
    simp only [created, reduceCtorEq, false_iff]
    omega

/-! ### Disposal -/

/-- `table'` is `table` without the target of one slot, which is in its next
generation. -/
structure Vacated (table : Table α) (index : Nat) (table' : Table α) : Prop where
  capacity_eq : table'.capacity = table.capacity
  live_eq : table'.live + 1 = table.live
  targetAt_eq : ∀ other, table'.targetAt other = if other = index then none else table.targetAt other
  generationAt_eq : ∀ other, table'.generationAt other =
    if other = index then nextGeneration (table.generationAt other) else table.generationAt other
  consistent : table'.Consistent

theorem not_mem_free (consistent : table.Consistent) (occupied : table.targetAt index = some target) :
    index ∉ table.free := by
  intro member
  have vacant := ((consistent.mem_free index).mp member).2
  rw [occupied] at vacant
  contradiction

/-- The free list has room for the index of an occupied slot. -/
theorem live_pos (consistent : table.Consistent) (occupied : table.targetAt index = some target) :
    0 < table.live := by
  have nodup := List.nodup_cons.mpr ⟨not_mem_free consistent occupied, consistent.free_nodup⟩
  have range : index :: table.free ⊆ List.range table.slots.size := by
    intro other member
    rw [List.mem_range]
    rcases List.mem_cons.mp member with same | free
    · exact same ▸ lt_size_of_targetAt occupied
    · exact ((consistent.mem_free other).mp free).1
  have length := nodup.length_le_of_subset range
  have count := consistent.live_add_free
  rw [List.length_cons, List.length_range] at length
  omega

/-- The table in which a slot has been vacated. -/
def vacate (table : Table α) (index : Nat) : Table α :=
  { table with
    slots := table.slots.setIfInBounds index ⟨nextGeneration (table.generationAt index), none⟩
    free := index :: table.free
    live := table.live - 1 }

theorem targetAt_vacate (table : Table α) (index other : Nat) :
    (table.vacate index).targetAt other = if other = index then none else table.targetAt other := by
  simp only [targetAt, vacate, Array.getElem?_setIfInBounds]
  by_cases same : other = index
  · subst same
    simp
  · simp [same, Ne.symm same]

theorem generationAt_vacate (inRange : index < table.slots.size) (other : Nat) :
    (table.vacate index).generationAt other =
      if other = index then nextGeneration (table.generationAt other)
      else table.generationAt other := by
  rw [generationAt, vacate, Array.getElem?_setIfInBounds]
  by_cases same : other = index
  · subst same
    simp [inRange]
  · simp [same, Ne.symm same, generationAt]

theorem vacate_consistent (consistent : table.Consistent)
    (occupied : table.targetAt index = some target) : (table.vacate index).Consistent where
  capacity_le := consistent.capacity_le
  size_le := by simpa [vacate] using consistent.size_le
  generation_bounds other := by
    rw [generationAt_vacate (lt_size_of_targetAt occupied)]
    split
    · exact nextGeneration_bounds _
    · exact consistent.generation_bounds other
  free_nodup := List.nodup_cons.mpr ⟨not_mem_free consistent occupied, consistent.free_nodup⟩
  mem_free other := by
    rw [targetAt_vacate]
    have size : (table.vacate index).slots.size = table.slots.size := Array.size_setIfInBounds
    have member := consistent.mem_free other
    by_cases same : other = index
    · subst same
      simpa [vacate] using lt_size_of_targetAt occupied
    · simpa [vacate, same] using member
  live_add_free := by
    have positive := live_pos consistent occupied
    have count := consistent.live_add_free
    simp only [vacate, List.length_cons, Array.size_setIfInBounds]
    omega

/-- A disposal of a token that is not in the table changes nothing; otherwise it
vacates the slot of the token. -/
theorem dispose_cases (consistent : table.Consistent) (token : Token) :
    (table.get? token = none ∧ table.dispose token = (false, table)) ∨
    ∃ target table', table.get? token = some target ∧ Vacated table token.index table' ∧
      table.dispose token = (true, table') := by
  cases found : table.slots[token.index]? with
  | none => exact .inl ⟨by simp [get?, found], by simp [dispose, found]⟩
  | some slot =>
    have generation : table.generationAt token.index = slot.generation := by
      simp [generationAt, found]
    by_cases current : slot.generation = token.generation
    · cases occupied : slot.target? with
      | none =>
        exact .inl ⟨by simp [get?, found, occupied], by simp [dispose, found, occupied]⟩
      | some target =>
        have held : table.targetAt token.index = some target := by simp [targetAt, found, occupied]
        have positive := live_pos consistent held
        have vacated : Vacated table token.index (table.vacate token.index) :=
          ⟨rfl, Nat.sub_add_cancel positive, targetAt_vacate table token.index,
            generationAt_vacate (lt_size_of_targetAt held), vacate_consistent consistent held⟩
        refine .inr ⟨target, _, by simp [get?, found, current, occupied], vacated, ?_⟩
        simp [dispose, vacate, found, occupied, current, generation]
    · exact .inl ⟨by simp [get?, found, current], by simp [dispose, found, current]⟩

/-! ### Look-up after a creation and after a disposal -/

variable {token other : Token}

theorem get?_eq_some_iff :
    table.get? token = some target ↔
      table.generationAt token.index = token.generation ∧ table.targetAt token.index = some target := by
  rw [get?_eq]
  split <;> simp_all

theorem get?_eq_none_of_vacant (vacant : table.targetAt token.index = none) :
    table.get? token = none := by
  rw [get?_eq, vacant, ite_self]

theorem index_lt_of_targetAt (consistent : table.Consistent)
    (occupied : table.targetAt index = some target) : index < maxSlots :=
  Nat.lt_of_lt_of_le (lt_size_of_targetAt occupied)
    (Nat.le_trans consistent.size_le consistent.capacity_le)

/-- A live token is one that a table can have issued. -/
theorem ofRaw?_of_get? (consistent : table.Consistent) (live : table.get? token = some target) :
    Token.ofRaw? token.raw = some token := by
  obtain ⟨generation, occupied⟩ := get?_eq_some_iff.mp live
  have inRange := index_lt_of_targetAt consistent occupied
  have bounds := consistent.generation_bounds token.index
  rw [generation] at bounds
  have issued := Token.ofRaw?_pack inRange bounds.2
  rwa [Token.pack_parts (Nat.le_of_lt inRange) bounds.2] at issued

/-- Only one token finds the target of a slot. -/
theorem eq_of_get? (consistent : table.Consistent) (live : table.get? token = some target)
    (sameIndex : other.index = token.index)
    (current : table.generationAt other.index = other.generation) : other = token := by
  obtain ⟨generation, occupied⟩ := get?_eq_some_iff.mp live
  have bounded := (consistent.generation_bounds token.index).2
  rw [generation] at bounded
  apply Token.eq_of_parts (index_lt_of_targetAt consistent occupied) bounded sameIndex
  rw [← current, sameIndex, generation]

namespace Filled

variable (filled : Filled table index target table')

include filled

theorem index_lt : index < maxSlots :=
  index_lt_of_targetAt filled.consistent
    ((filled.targetAt_eq index).trans (if_pos rfl))

theorem generation_le : table.generationAt index ≤ maxGeneration :=
  filled.generationAt_eq index ▸ (filled.consistent.generation_bounds index).2

theorem index_token : (Token.pack index (table.generationAt index)).index = index :=
  Token.index_pack filled.index_lt filled.generation_le

theorem generation_token :
    (Token.pack index (table.generationAt index)).generation = table.generationAt index :=
  Token.generation_pack filled.index_lt filled.generation_le

/-- The token of a creation was not in the table. -/
theorem get?_fresh : table.get? (.pack index (table.generationAt index)) = none :=
  get?_eq_none_of_vacant (filled.index_token.symm ▸ filled.vacant)

theorem get?_token : table'.get? (.pack index (table.generationAt index)) = some target := by
  rw [get?_eq_some_iff, filled.index_token, filled.generation_token, filled.generationAt_eq,
    filled.targetAt_eq, if_pos rfl]
  exact ⟨rfl, rfl⟩

theorem get?_other (different : other ≠ .pack index (table.generationAt index)) :
    table'.get? other = table.get? other := by
  rw [get?_eq, get?_eq, filled.generationAt_eq, filled.targetAt_eq]
  by_cases same : other.index = index
  · have stale : table.generationAt other.index ≠ other.generation := by
      intro current
      apply different
      apply eq_of_get? filled.consistent filled.get?_token (same.trans filled.index_token.symm)
      rw [filled.generationAt_eq, current]
    rw [if_neg stale, if_neg stale]
  · rw [if_neg same]

end Filled

namespace Vacated

variable (vacated : Vacated table token.index table')

include vacated

theorem get?_token : table'.get? token = none :=
  get?_eq_none_of_vacant ((vacated.targetAt_eq token.index).trans (if_pos rfl))

theorem get?_other (consistent : table.Consistent) (live : table.get? token = some target)
    (different : other ≠ token) : table'.get? other = table.get? other := by
  by_cases same : other.index = token.index
  · have stale : table.generationAt other.index ≠ other.generation := fun current =>
      different (eq_of_get? consistent live same current)
    have vacant : table'.targetAt other.index = none :=
      (vacated.targetAt_eq other.index).trans (if_pos same)
    rw [get?_eq_none_of_vacant vacant, get?_eq, if_neg stale]
  · rw [get?_eq, get?_eq, vacated.generationAt_eq, vacated.targetAt_eq, if_neg same, if_neg same]

end Vacated

end Table

end SqliteBridge.Handle
