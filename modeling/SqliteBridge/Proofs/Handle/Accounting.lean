import Mathlib.Data.Set.Card
import SqliteBridge.Proofs.Handle.FiniteMap

/-! The slots of a table add up. In every state of a run each vacant slot is on the free
list once and each occupied slot belongs to one live token, so that a creation is refused
only by a table whose whole capacity is live, and room that a disposal made lasts until the
next creation takes it. -/
namespace SqliteBridge.Handle.Table

variable {α : Type} {limit : Nat} {table : Table α}

def liveTokens (table : Table α) : Set Token := {token | ∃ target, table.get? token = some target}

/-- What is counted of a table with the given capacity agrees. -/
structure Balanced (capacity : Nat) (table : Table α) : Prop where
  free_nodup : table.free.Nodup
  mem_free : ∀ index, index ∈ table.free ↔
    ∃ slot, table.slots[index]? = some slot ∧ slot.target? = none
  liveTokens_finite : table.liveTokens.Finite
  liveTokens_add_free : table.liveTokens.ncard + table.free.length = table.slots.size
  size_le : table.slots.size ≤ capacity
  generation_bounds : ∀ slot ∈ table.slots, 1 ≤ slot.generation ∧ slot.generation ≤ maxGeneration
  live_eq : table.live = table.slots.countP fun slot => slot.target?.isSome
  live_pos : ∀ token, (table.dispose token).1 = true → 0 < table.live
  create_refused_iff : ∀ target, (∃ error, (table.create target).1 = .error error) ↔
    table.liveTokens.ncard = capacity
  create_refused : ∀ target error, (table.create target).1 = .error error →
    error = .exhausted capacity ∧ (table.create target).2 = table
  /-- Whatever happens between a disposal and the next creation. -/
  create_after_dispose : ∀ token between target, (table.dispose token).1 = true →
    (∀ stored, .create stored ∉ between) →
    ∃ issued, (((table.dispose token).2.run between).create target).1 = .ok issued

/-! ### Counting slots -/

/-- A vacant slot is one without a target that was opened. -/
theorem vacant_iff (table : Table α) (index : Nat) :
    (index < table.slots.size ∧ table.targetAt index = none) ↔
      ∃ slot, table.slots[index]? = some slot ∧ slot.target? = none := by
  rw [targetAt]
  cases found : table.slots[index]? with
  | none => simpa using Array.getElem?_eq_none_iff.mp found
  | some slot =>
    obtain ⟨inRange, -⟩ := Array.getElem?_eq_some_iff.mp found
    simp [inRange]

theorem countP_range_getElem? {β : Type} (items : List β) (p : β → Bool) :
    (List.range items.length).countP (fun index => items[index]?.any p) = items.countP p := by
  have indexed : (List.range items.length).map (fun index => items[index]?) = items.map some := by
    apply List.ext_getElem
    · simp
    · intro index inRange _
      have inRange : index < items.length := by simpa using inRange
      simp [inRange]
  calc (List.range items.length).countP (fun index => items[index]?.any p)
    _ = ((List.range items.length).map (fun index => items[index]?)).countP (Option.any p) := by
      rw [List.countP_map]
      rfl
    _ = items.countP p := by
      rw [indexed, List.countP_map]
      rfl

/-- The free list is as long as there are vacant slots. -/
theorem length_free (consistent : table.Consistent) :
    table.free.length = table.slots.countP fun slot => slot.target?.isNone := by
  have listed : table.free.Perm ((List.range table.slots.toList.length).filter
      fun index => table.slots.toList[index]?.any fun slot => slot.target?.isNone) := by
    rw [List.perm_ext_iff_of_nodup consistent.free_nodup (List.nodup_range.filter _)]
    intro index
    rw [consistent.mem_free, vacant_iff, List.mem_filter, List.mem_range, Array.getElem?_toList,
      Option.any_eq_true]
    constructor
    · rintro ⟨slot, found, vacant⟩
      obtain ⟨inRange, -⟩ := Array.getElem?_eq_some_iff.mp found
      exact ⟨by simpa using inRange, slot, found, by simp [vacant]⟩
    · rintro ⟨-, slot, found, vacant⟩
      exact ⟨slot, found, by simpa using vacant⟩
  rw [listed.length_eq, ← List.countP_eq_length_filter, countP_range_getElem?, Array.countP_toList]

theorem live_eq_countP (consistent : table.Consistent) :
    table.live = table.slots.countP fun slot => slot.target?.isSome := by
  have all := List.length_eq_countP_add_countP (fun slot : Slot α => slot.target?.isSome)
    (l := table.slots.toList)
  have vacant : (fun slot : Slot α => decide ¬slot.target?.isSome = true) =
      fun slot => slot.target?.isNone := by
    funext slot
    cases slot.target? <;> rfl
  have count := consistent.live_add_free
  rw [length_free consistent] at count
  rw [vacant, Array.countP_toList, Array.countP_toList, Array.length_toList] at all
  omega

/-! ### Creations after a disposal -/

theorem live_perform_le (consistent : table.Consistent) {operation : Operation α}
    (storesNothing : ∀ stored, operation ≠ .create stored) :
    (table.perform operation).2.live ≤ table.live := by
  cases operation with
  | create stored => exact absurd rfl (storesNothing stored)
  | dispose token =>
    rcases dispose_cases consistent token with ⟨_, kept⟩ | ⟨_, table', _, vacated, disposed⟩
    · rw [perform, kept]
    · rw [perform, disposed, ← vacated.live_eq]
      exact Nat.le_succ _
  | get _ | resolve _ | isDisposed _ | size | isEmpty => exact Nat.le_refl _

theorem fst_foldl_track (operations : List (Operation α)) (map : TokenMap α) :
    (operations.foldl track (table, map)).1 = table.run operations := by
  induction operations generalizing table map with
  | nil => rfl
  | cons operation rest ih => exact ih _

namespace Mirrors

variable {map : TokenMap α} (mirrors : Mirrors limit table map)

include mirrors

theorem exists_run (operations : List (Operation α)) :
    ∃ map, Mirrors limit (table.run operations) map := by
  have tracked := mirrors.run operations
  rw [fst_foldl_track] at tracked
  exact ⟨_, tracked⟩

theorem live_run_le {operations : List (Operation α)}
    (storesNothing : ∀ stored, .create stored ∉ operations) :
    (table.run operations).live ≤ table.live := by
  induction operations generalizing table map with
  | nil => exact Nat.le_refl _
  | cons operation rest ih =>
    have first : (table.perform operation).2.live ≤ table.live := by
      apply live_perform_le mirrors.consistent
      rintro stored rfl
      exact storesNothing stored List.mem_cons_self
    have others : ∀ stored, .create stored ∉ rest := fun stored member =>
      storesNothing stored (List.mem_cons_of_mem _ member)
    exact Nat.le_trans (ih (mirrors.step operation) others) first

theorem liveTokens_eq : table.liveTokens = ↑map.keys := by
  ext token
  rw [Finset.mem_coe, Finmap.mem_keys, mirrors.mem_iff]
  rfl

theorem ncard_liveTokens : table.liveTokens.ncard = table.live := by
  rw [mirrors.liveTokens_eq, Set.ncard_coe_finset, mirrors.card_eq]

theorem balanced : Balanced (min limit maxSlots) table where
  free_nodup := mirrors.consistent.free_nodup
  mem_free index := (mirrors.consistent.mem_free index).trans (vacant_iff table index)
  liveTokens_finite := mirrors.liveTokens_eq ▸ map.keys.finite_toSet
  liveTokens_add_free := mirrors.ncard_liveTokens ▸ mirrors.consistent.live_add_free
  size_le := mirrors.capacity_eq ▸ mirrors.consistent.size_le
  generation_bounds slot member := by
    obtain ⟨index, inRange, rfl⟩ := Array.mem_iff_getElem.mp member
    have bounds := mirrors.consistent.generation_bounds index
    rwa [generationAt, Array.getElem?_eq_getElem inRange] at bounds
  live_eq := live_eq_countP mirrors.consistent
  live_pos token disposed := by
    rcases dispose_cases mirrors.consistent token with ⟨_, kept⟩ | ⟨_, _, live, _, _⟩
    · rw [kept] at disposed
      contradiction
    · exact Table.live_pos mirrors.consistent (get?_eq_some_iff.mp live).2
  create_refused_iff target := by
    have full := Table.create_refused_iff mirrors.consistent target
    rw [mirrors.ncard_liveTokens, ← mirrors.capacity_eq, ← full]
    rcases create_cases mirrors.consistent target with ⟨_, _, refused⟩ | ⟨_, _, _, created⟩
    · simp [refused]
    · simp [created]
  create_refused target error refusal := by
    rcases create_cases mirrors.consistent target with ⟨_, _, refused⟩ | ⟨_, _, _, created⟩
    · rw [refused] at refusal ⊢
      cases refusal
      exact ⟨congrArg _ mirrors.capacity_eq, rfl⟩
    · rw [created] at refusal
      contradiction
  create_after_dispose token between target disposed storesNothing := by
    rcases dispose_cases mirrors.consistent token with ⟨_, kept⟩ | ⟨_, table', live, vacated, removed⟩
    · rw [kept] at disposed
      contradiction
    · have retired := mirrors.vacated live vacated
      obtain ⟨map', after⟩ := retired.exists_run between
      have bound := retired.live_run_le storesNothing
      have full := Table.create_refused_iff after.consistent target
      have occupied := mirrors.consistent.live_add_free
      have opened := mirrors.consistent.size_le
      have counted := vacated.live_eq
      rw [removed]
      rcases create_cases after.consistent target with ⟨_, _, refused⟩ | ⟨_, _, _, created⟩
      · -- A refusal would need more live tokens than the disposal left.
        rw [refused, eq_self_iff_true, true_iff, after.capacity_eq, ← mirrors.capacity_eq] at full
        omega
      · exact ⟨_, congrArg Prod.fst created⟩

end Mirrors

/-- In every state of a run the slots, the free list and the live tokens add up, a creation
is refused exactly when as many tokens are live as the table may have slots, and it is not
refused after a disposal. -/
theorem run_balanced (limit : Nat) (operations : List (Operation α)) :
    Balanced (min limit maxSlots) ((withCapacity limit).run operations) := by
  obtain ⟨map, mirrors⟩ := (mirrors_withCapacity (α := α) limit).exists_run operations
  exact mirrors.balanced

end SqliteBridge.Handle.Table
