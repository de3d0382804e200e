import Mathlib.Data.Finmap
import SqliteBridge.Proofs.Handle.Operation

/-! A table is a finite map from tokens to targets. The map is kept beside the table:
it gains an entry by every creation that succeeds and loses one by every disposal, and
in every state of a run each operation answers as the map tells. Tokens need not come
from the table; a forged or stale one is only absent from the map. -/
namespace SqliteBridge.Handle.Table

variable {α : Type} {limit index : Nat} {table table' : Table α} {target : α} {token : Token}

abbrev TokenMap (α : Type) := Finmap fun _ : Token => α

/-- The map after an operation that was answered. -/
def record (map : TokenMap α) : Operation α → Answer α → TokenMap α
  | .create target, .created (.ok token) => map.insert token target
  | .dispose token, _ => map.erase token
  | _, _ => map

/-- A run of operations on a table and on the map beside it. -/
def track (state : Table α × TokenMap α) (operation : Operation α) : Table α × TokenMap α :=
  let (answer, table) := state.1.perform operation
  (table, record state.2 operation answer)

/-- Every operation on the table answers as the map tells. A creation is refused when
the map is as large as the table may grow, and gives an absent token otherwise. -/
structure Agrees (limit : Nat) (table : Table α) (map : TokenMap α) : Prop where
  get : ∀ token, table.get? token = map.lookup token
  isDisposed : ∀ token, table.isDisposed token = true ↔ token ∉ map
  resolve : ∀ token, table.resolve token =
    match map.lookup token with
    | some target => .ok target
    | none => .error (.aborted s!"{disposedMessage} ({token.text})")
  dispose : ∀ token, (table.dispose token).1 = true ↔ token ∈ map
  size : table.size = map.keys.card
  isEmpty : table.isEmpty = true ↔ map = ∅
  create_fresh : ∀ target token, (table.create target).1 = .ok token → token ∉ map
  create_total : ∀ target, (∃ token, (table.create target).1 = .ok token) ↔
    map.keys.card < min limit maxSlots

/-- What a run keeps: a consistent table, and in the map what look-up finds. -/
structure Mirrors (limit : Nat) (table : Table α) (map : TokenMap α) : Prop where
  consistent : table.Consistent
  capacity_eq : table.capacity = min limit maxSlots
  lookup_eq : ∀ token, map.lookup token = table.get? token
  card_eq : map.keys.card = table.live

theorem mirrors_withCapacity (limit : Nat) : Mirrors limit (withCapacity limit : Table α) ∅ where
  consistent := withCapacity_consistent limit
  capacity_eq := rfl
  lookup_eq _ := by rw [get?_withCapacity, Finmap.lookup_empty]
  card_eq := rfl

namespace Mirrors

variable {map : TokenMap α} (mirrors : Mirrors limit table map)

include mirrors

theorem mem_iff : token ∈ map ↔ ∃ target, table.get? token = some target := by
  rw [Finmap.mem_iff, mirrors.lookup_eq]

theorem not_mem_iff : token ∉ map ↔ table.get? token = none := by
  rw [← Finmap.lookup_eq_none, mirrors.lookup_eq]

theorem filled (filled : Filled table index target table') :
    Mirrors limit table' (map.insert (.pack index (table.generationAt index)) target) where
  consistent := filled.consistent
  capacity_eq := filled.capacity_eq.trans mirrors.capacity_eq
  lookup_eq token := by
    by_cases same : token = .pack index (table.generationAt index)
    · rw [same, Finmap.lookup_insert, filled.get?_token]
    · rw [Finmap.lookup_insert_of_ne _ same, filled.get?_other same, mirrors.lookup_eq]
  card_eq := by
    have fresh := mirrors.not_mem_iff.mpr filled.get?_fresh
    have keys : (map.insert (.pack index (table.generationAt index)) target).keys =
        insert (.pack index (table.generationAt index)) map.keys := by
      ext token
      rw [Finset.mem_insert, Finmap.mem_keys, Finmap.mem_keys, Finmap.mem_insert]
    rw [keys, Finset.card_insert_of_notMem (mt Finmap.mem_keys.mp fresh), mirrors.card_eq,
      filled.live_eq]

theorem vacated (live : table.get? token = some target)
    (vacated : Vacated table token.index table') : Mirrors limit table' (map.erase token) where
  consistent := vacated.consistent
  capacity_eq := vacated.capacity_eq.trans mirrors.capacity_eq
  lookup_eq other := by
    by_cases same : other = token
    · rw [same, Finmap.lookup_erase, vacated.get?_token]
    · rw [Finmap.lookup_erase_ne same, vacated.get?_other mirrors.consistent live same,
        mirrors.lookup_eq]
  card_eq := by
    have member : token ∈ map.keys := Finmap.mem_keys.mpr (mirrors.mem_iff.mpr ⟨target, live⟩)
    have counter := vacated.live_eq
    rw [Finmap.keys_erase, Finset.card_erase_of_mem member, mirrors.card_eq]
    omega

theorem erase_absent (absent : table.get? token = none) : Mirrors limit table (map.erase token) where
  consistent := mirrors.consistent
  capacity_eq := mirrors.capacity_eq
  lookup_eq other := by
    by_cases same : other = token
    · rw [same, Finmap.lookup_erase, absent]
    · rw [Finmap.lookup_erase_ne same, mirrors.lookup_eq]
  card_eq := by
    have missing : token ∉ map.keys := mt Finmap.mem_keys.mp (mirrors.not_mem_iff.mpr absent)
    rw [Finmap.keys_erase, Finset.erase_eq_of_notMem missing, mirrors.card_eq]

/-- One operation. -/
theorem step (operation : Operation α) :
    Mirrors limit (track (table, map) operation).1 (track (table, map) operation).2 := by
  cases operation with
  | create target =>
    rcases create_cases mirrors.consistent target with
      ⟨_, _, refused⟩ | ⟨index, table', filled, created⟩
    · simpa [track, perform, refused, record] using mirrors
    · simpa [track, perform, created, record] using mirrors.filled filled
  | dispose token =>
    rcases dispose_cases mirrors.consistent token with
      ⟨absent, kept⟩ | ⟨target, table', live, vacated, disposed⟩
    · simpa [track, perform, kept, record] using mirrors.erase_absent absent
    · simpa [track, perform, disposed, record] using mirrors.vacated live vacated
  | get _ | resolve _ | isDisposed _ | size | isEmpty => exact mirrors

theorem run (operations : List (Operation α)) :
    Mirrors limit (operations.foldl track (table, map)).1 (operations.foldl track (table, map)).2 := by
  induction operations generalizing table map with
  | nil => exact mirrors
  | cons operation rest ih => exact ih (mirrors.step operation)

theorem agrees : Agrees limit table map where
  get token := (mirrors.lookup_eq token).symm
  isDisposed token := by rw [mirrors.not_mem_iff, isDisposed, Option.isNone_iff_eq_none]
  resolve token := by
    rw [mirrors.lookup_eq]
    rfl
  dispose token := by
    rw [mirrors.mem_iff]
    rcases dispose_cases mirrors.consistent token with
      ⟨absent, kept⟩ | ⟨target, table', live, _, disposed⟩
    · simp [kept, absent]
    · simp [disposed, live]
  size := mirrors.card_eq.symm
  isEmpty := by
    rw [isEmpty, size, beq_iff_eq, ← mirrors.card_eq, Finset.card_eq_zero]
    constructor
    · intro noKeys
      apply Finmap.ext_lookup
      intro token
      rw [Finmap.lookup_empty, Finmap.lookup_eq_none, ← Finmap.mem_keys, noKeys]
      exact Finset.notMem_empty token
    · intro empty
      rw [empty, Finmap.keys_empty]
  create_fresh target token created := by
    rcases create_cases mirrors.consistent target with
      ⟨_, _, refused⟩ | ⟨index, table', filled, filledBy⟩
    · simp [refused] at created
    · rw [filledBy] at created
      cases created
      exact mirrors.not_mem_iff.mpr filled.get?_fresh
  create_total target := by
    have full := create_refused_iff mirrors.consistent target
    have size := mirrors.consistent.live_add_free
    have bound := mirrors.consistent.size_le
    rw [mirrors.card_eq, ← mirrors.capacity_eq]
    rcases create_cases mirrors.consistent target with
      ⟨_, _, refused⟩ | ⟨index, table', filled, created⟩
    · simp only [refused, true_iff] at full
      simp [refused, full]
    · simp only [created, reduceCtorEq, false_iff] at full
      simp only [created, Except.ok.injEq, exists_eq', true_iff]
      omega

/-- The target of a live token outlasts every operation but its own disposal. -/
theorem lookup_kept {operation : Operation α} (live : map.lookup token = some target)
    (kept : operation ≠ .dispose token) :
    (table.perform operation).2.get? token = some target := by
  rw [mirrors.lookup_eq] at live
  cases operation with
  | create stored =>
    rcases create_cases mirrors.consistent stored with
      ⟨_, _, refused⟩ | ⟨index, table', filled, created⟩
    · rwa [perform, refused]
    · have different : token ≠ .pack index (table.generationAt index) := by
        rintro rfl
        rw [filled.get?_fresh] at live
        contradiction
      rw [perform, created]
      exact (filled.get?_other different).trans live
  | dispose other =>
    have different : token ≠ other := fun same => kept (same ▸ rfl)
    rcases dispose_cases mirrors.consistent other with
      ⟨_, unchanged⟩ | ⟨_, table', found, vacated, disposed⟩
    · rwa [perform, unchanged]
    · rw [perform, disposed]
      exact (vacated.get?_other mirrors.consistent found different).trans live
  | get _ | resolve _ | isDisposed _ | size | isEmpty => exact live

end Mirrors

/-- In every state of a run the table answers as the map of what was created and not
disposed since, and no operation touches the target of a token other than one that it
disposes. -/
theorem run_refines_map (limit : Nat) (operations : List (Operation α)) :
    let state := operations.foldl track (withCapacity limit, ∅)
    Agrees limit state.1 state.2 ∧
      ∀ operation token target, state.2.lookup token = some target → operation ≠ .dispose token →
        (state.1.perform operation).2.get? token = some target := by
  have mirrors := (mirrors_withCapacity (α := α) limit).run operations
  exact ⟨mirrors.agrees, fun _ _ _ live kept => mirrors.lookup_kept live kept⟩

end SqliteBridge.Handle.Table
