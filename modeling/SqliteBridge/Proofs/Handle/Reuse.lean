import SqliteBridge.Proofs.Handle.Generations

/-! When a token that was disposed comes back. A slot is given out again under a new
generation each time, but generations come around: a disposed token is found again, or
is given out again, exactly when its slot is in use, or is taken, after a multiple of
`maxGeneration` disposals from its own on. Until then it is rejected everywhere. -/
namespace SqliteBridge.Handle.Table

variable {α : Type} {table table' : Table α} {token : Token}

/-- No operation finds the token. -/
structure Rejects (table : Table α) (token : Token) : Prop where
  get : table.get? token = none
  isDisposed : table.isDisposed token = true
  dispose : table.dispose token = (false, table)

theorem rejects_iff (consistent : table.Consistent) :
    table.Rejects token ↔ table.get? token = none := by
  constructor
  · exact Rejects.get
  · intro absent
    refine ⟨absent, by rw [isDisposed, absent, Option.isNone_none], ?_⟩
    rcases dispose_cases consistent token with ⟨_, kept⟩ | ⟨_, _, live, _, _⟩
    · exact kept
    · rw [absent] at live
      contradiction

/-- Whether the slot of a token is in use, under whatever token. -/
def InUse (table : Table α) (token : Token) : Prop :=
  ∃ other target, other.index = token.index ∧ table.get? other = some target

theorem inUse_iff (consistent : table.Consistent) :
    table.InUse token ↔ ∃ target, table.targetAt token.index = some target := by
  constructor
  · rintro ⟨other, target, same, live⟩
    exact ⟨target, same ▸ (get?_eq_some_iff.mp live).2⟩
  · rintro ⟨target, occupied⟩
    have bounds := consistent.generation_bounds token.index
    have inRange := index_lt_of_targetAt consistent occupied
    refine ⟨.pack token.index (table.generationAt token.index), target,
      Token.index_pack inRange bounds.2, get?_eq_some_iff.mpr ?_⟩
    rw [Token.index_pack inRange bounds.2, Token.generation_pack inRange bounds.2]
    exact ⟨rfl, occupied⟩

/-- A slot is in the same generation again after as many disposals as there are
generations, or a multiple of that. -/
theorem generationAt_after_iff (consistent : table.Consistent) (operations : List (Operation α))
    (slot : Nat) :
    (table.after operations).1.generationAt slot = table.generationAt slot ↔
      maxGeneration ∣ (table.after operations).2.disposals slot := by
  have bounds := consistent.generation_bounds slot
  have present := (dated_after consistent operations).generationAt_eq slot
  have start := cycle_pred bounds.1 bounds.2
  rw [present]
  generalize (table.after operations).2.disposals slot = count
  conv => lhs; rhs; rw [← start]
  rw [eq_comm, cycle_eq_iff (Nat.le_add_right _ _), Nat.add_sub_cancel_left]

section Disposed

variable {target : α} (consistent : table.Consistent) (live : table.get? token = some target)

include consistent live

theorem rejects_after_iff (operations : List (Operation α)) :
    let state := table.after operations
    state.1.Rejects token ↔
      ¬ (maxGeneration ∣ state.2.disposals token.index ∧ state.1.InUse token) := by
  have dated := dated_after consistent operations
  have generation := (get?_eq_some_iff.mp live).1
  have returned := generationAt_after_iff consistent operations token.index
  rw [generation] at returned
  dsimp only
  rw [rejects_iff dated.consistent, inUse_iff dated.consistent, ← returned, get?_eq]
  by_cases current : (table.after operations).1.generationAt token.index = token.generation
  · cases (table.after operations).1.targetAt token.index <;> simp [current]
  · simp [current]

theorem create_after_iff (operations : List (Operation α)) (stored : α) :
    let state := table.after operations
    (state.1.create stored).1 = .ok token ↔
      maxGeneration ∣ state.2.disposals token.index ∧
        ∃ issued, (state.1.create stored).1 = .ok issued ∧ issued.index = token.index := by
  have dated := dated_after consistent operations
  obtain ⟨generation, occupied⟩ := get?_eq_some_iff.mp live
  have returned := generationAt_after_iff consistent operations token.index
  have bounds := consistent.generation_bounds token.index
  rw [generation] at returned bounds
  dsimp only
  rcases create_cases dated.consistent stored with
    ⟨_, _, refused⟩ | ⟨index, table', filled, created⟩
  · simp [refused]
  · rw [created, ← returned]
    constructor
    · intro same
      cases same
      refine ⟨?_, _, rfl, rfl⟩
      rw [filled.generation_token, filled.index_token]
    · rintro ⟨current, issued, same, sameIndex⟩
      cases same
      apply congrArg Except.ok
      apply Token.eq_of_parts (index_lt_of_targetAt consistent occupied) bounds.2 sameIndex
      rw [filled.generation_token, ← current, ← sameIndex, filled.index_token]

end Disposed

theorem nodup_observe_iff {state : Table α × History} (recorded : Recorded state)
    (operation : Operation α) :
    (observe state operation).2.issued.Nodup ↔ state.2.issued.Nodup ∧
      ∀ stored token, operation = .create stored → (state.1.create stored).1 = .ok token →
        state.2.disposals token.index < maxGeneration := by
  obtain ⟨table, history⟩ := state
  cases operation with
  | create stored =>
    rcases create_cases recorded.dated.consistent stored with
      ⟨_, _, refused⟩ | ⟨index, table', filled, created⟩
    · simp only [observe, perform, refused, History.record]
      refine ⟨fun nodup => ⟨nodup, fun stored' token same issued => ?_⟩, And.left⟩
      cases same
      rw [refused] at issued
      contradiction
    · have repeats := token_mem_issued_iff recorded filled
      simp only [observe, perform, created, History.record, List.nodup_cons, repeats, Nat.not_le]
      constructor
      · rintro ⟨early, nodup⟩
        refine ⟨nodup, fun stored' token same issued => ?_⟩
        cases same
        rw [created] at issued
        cases issued
        rwa [filled.index_token]
      · rintro ⟨nodup, early⟩
        have bound := early stored _ rfl (congrArg Prod.fst created)
        rw [filled.index_token] at bound
        exact ⟨bound, nodup⟩
  | dispose token =>
    rcases dispose_cases recorded.dated.consistent token with
      ⟨_, kept⟩ | ⟨_, table', _, vacated, disposed⟩
    · simp [observe, perform, kept, History.record]
    · simp [observe, perform, disposed, History.record]
  | get _ | resolve _ | isDisposed _ | size | isEmpty =>
    simp [observe, perform, History.record]

theorem nodup_foldl_iff {state : Table α × History} (recorded : Recorded state)
    (operations : List (Operation α)) :
    (operations.foldl observe state).2.issued.Nodup ↔ state.2.issued.Nodup ∧
      ∀ before stored token, before ++ [.create stored] <+: operations →
        ((before.foldl observe state).1.create stored).1 = .ok token →
        (before.foldl observe state).2.disposals token.index < maxGeneration := by
  induction operations generalizing state with
  | nil => simp
  | cons operation rest ih =>
    rw [List.foldl_cons, ih (recorded_observe recorded operation), nodup_observe_iff recorded]
    constructor
    · rintro ⟨⟨nodup, first⟩, later⟩
      refine ⟨nodup, fun before stored token starts created => ?_⟩
      cases before with
      | nil => exact first stored token (List.cons_prefix_cons.mp starts).1.symm created
      | cons other before =>
        obtain ⟨same, startsRest⟩ := List.cons_prefix_cons.mp starts
        subst same
        exact later before stored token startsRest created
    · rintro ⟨nodup, all⟩
      refine ⟨⟨nodup, fun stored token same created => ?_⟩, fun before stored token starts created => ?_⟩
      · subst same
        exact all [] stored token (List.cons_prefix_cons.mpr ⟨rfl, List.nil_prefix⟩) created
      · exact all (operation :: before) stored token (List.cons_prefix_cons.mpr ⟨rfl, starts⟩) created

/-- When disposed tokens stay disposed. In the rest of a run, a token that was disposed is
rejected unless its slot is in use after a multiple of `maxGeneration` disposals, its own
included, and is given out again by a creation exactly when that takes its slot after such
a number. The tokens of the run are all different exactly when no creation takes a slot
that was disposed `maxGeneration` times or more. -/
theorem disposed_token_returns_iff (limit : Nat) (operations : List (Operation α)) :
    (∀ before token later, operations = before ++ .dispose token :: later →
      let disposing := ((withCapacity limit).after before).1
      (disposing.dispose token).1 = true →
      let state := disposing.after (.dispose token :: later)
      (state.1.Rejects token ↔
        ¬ (maxGeneration ∣ state.2.disposals token.index ∧ state.1.InUse token)) ∧
      ∀ stored, (state.1.create stored).1 = .ok token ↔
        maxGeneration ∣ state.2.disposals token.index ∧
          ∃ issued, (state.1.create stored).1 = .ok issued ∧ issued.index = token.index) ∧
    (((withCapacity limit).after operations).2.issued.Nodup ↔
      ∀ before stored token, before ++ [.create stored] <+: operations →
        (((withCapacity limit).after before).1.create stored).1 = .ok token →
        ((withCapacity limit).after before).2.disposals token.index < maxGeneration) := by
  refine ⟨fun before token later _ disposed => ?_, ?_⟩
  · have consistent := (dated_withCapacity (α := α) limit before).consistent
    rcases dispose_cases consistent token with ⟨_, kept⟩ | ⟨target, _, live, _, _⟩
    · rw [kept] at disposed
      contradiction
    · exact ⟨rejects_after_iff consistent live _, create_after_iff consistent live _⟩
  · have all := nodup_foldl_iff (recorded_withCapacity (α := α) limit) operations
    exact all.trans (and_iff_right List.nodup_nil)

/-- A token that was disposed is rejected after its slot has been used once more. -/
theorem disposed_token_rejected_once_reused :
    let before : List (Operation Nat) := [.create 7]
    let later : List (Operation Nat) := [.create 8, .dispose (.pack 0 2), .create 9]
    (((withCapacity 2).after before).1.dispose (.pack 0 1)).1 = true ∧
      (((withCapacity 2).after before).1.after (.dispose (.pack 0 1) :: later)).1.Rejects
        (.pack 0 1) := by
  have disposed : (((withCapacity 2).after [.create 7]).1.dispose (.pack 0 1)).1 = true := by
    decide
  have exact_reuse := (disposed_token_returns_iff 2
    [.create 7, .dispose (.pack 0 1), .create 8, .dispose (.pack 0 2), .create 9]).1
    [.create 7] (.pack 0 1) [.create 8, .dispose (.pack 0 2), .create 9] rfl disposed
  refine ⟨disposed, exact_reuse.1.mpr ?_⟩
  rintro ⟨divides, _⟩
  have twice : (((withCapacity 2).after [.create 7]).1.after
      [.dispose (.pack 0 1), .create 8, .dispose (.pack 0 2), .create (9 : Nat)]).2.disposals
        (Token.pack 0 1).index = 2 := by
    decide
  rw [twice] at divides
  revert divides
  decide

/-! ### From a creation on -/

theorem fst_foldl_observe (operations : List (Operation α)) (history : History) :
    (operations.foldl observe (table, history)).1 = table.run operations := by
  induction operations generalizing table history with
  | nil => rfl
  | cons operation rest ih => exact ih _

theorem disposals_le_observe (state : Table α × History) (operation : Operation α) (slot : Nat) :
    state.2.disposals slot ≤ (observe state operation).2.disposals slot := by
  change _ ≤ (state.2.record operation (state.1.perform operation).1).disposals slot
  unfold History.record
  split
  · exact Nat.le_refl _
  · dsimp only
    split
    · exact Nat.le_succ _
    · exact Nat.le_refl _
  · exact Nat.le_refl _

theorem disposals_le_foldl (state : Table α × History) (operations : List (Operation α))
    (slot : Nat) :
    state.2.disposals slot ≤ (operations.foldl observe state).2.disposals slot := by
  induction operations generalizing state with
  | nil => exact Nat.le_refl _
  | cons operation rest ih => exact Nat.le_trans (disposals_le_observe state operation slot) (ih _)

/-- A run in which a token was disposed has counted that. -/
theorem disposals_pos {first rest : List (Operation α)}
    (disposed : ((table.run first).dispose token).1 = true) :
    0 < (table.after (first ++ .dispose token :: rest)).2.disposals token.index := by
  rw [after, List.foldl_append, List.foldl_cons]
  apply Nat.lt_of_lt_of_le _ (disposals_le_foldl _ rest token.index)
  rw [← fst_foldl_observe first .empty] at disposed
  simp [observe, perform, disposed, History.record]

/-- What a token finds later: the target of its slot, whenever that has come around. -/
theorem get?_after {target : α} (consistent : table.Consistent)
    (live : table.get? token = some target) (operations : List (Operation α)) :
    (table.after operations).1.get? token =
      if maxGeneration ∣ (table.after operations).2.disposals token.index then
        (table.after operations).1.targetAt token.index
      else none := by
  have generation := (get?_eq_some_iff.mp live).1
  have returned := generationAt_after_iff consistent operations token.index
  rw [generation] at returned
  rw [get?_eq]
  simp only [returned]

/-- How far a token reaches. After its creation it is found exactly while its slot is in use
and has been disposed a multiple of `maxGeneration` times since; so a disposed token is
rejected until its slot has been disposed `maxGeneration` times, and whatever it finds then
is what its slot holds. -/
theorem issued_token_found_iff (limit : Nat) (before later : List (Operation α)) (target : α)
    (token : Token) (issued : (((withCapacity limit).run before).create target).1 = .ok token) :
    let issuing := (((withCapacity limit).run before).create target).2
    let state := issuing.after later
    ((∃ found, state.1.get? token = some found) ↔
      (∃ found, state.1.targetAt token.index = some found) ∧
        maxGeneration ∣ state.2.disposals token.index) ∧
    (∀ first rest, later = first ++ .dispose token :: rest →
      ((issuing.run first).dispose token).1 = true →
      state.2.disposals token.index < maxGeneration → state.1.Rejects token) ∧
    ∀ found, state.1.get? token = some found → state.1.targetAt token.index = some found := by
  have consistent := (dated_withCapacity (α := α) limit before).consistent
  rw [after, fst_foldl_observe] at consistent
  rcases create_cases consistent target with ⟨_, _, refused⟩ | ⟨index, table', filled, created⟩
  · rw [refused] at issued
    contradiction
  · rw [created] at issued ⊢
    cases issued
    dsimp only
    have finds := get?_after filled.consistent filled.get?_token later
    refine ⟨?_, ?_, ?_⟩
    · rw [finds]
      split <;> simp_all
    · intro first rest split disposed early
      have positive : 0 < (table'.after later).2.disposals _ := split ▸ disposals_pos disposed
      rw [rejects_iff (dated_after filled.consistent later).consistent, finds, if_neg]
      exact Nat.not_dvd_of_pos_of_lt positive early
    · intro found live
      exact (get?_eq_some_iff.mp live).2

/-- The first token does not find the second target of its slot. -/
theorem issued_token_found_iff_reused :
    let before : List (Operation Nat) := []
    let later : List (Operation Nat) := [.dispose (.pack 0 1), .create 8]
    let issuing := ((withCapacity 2).run before).create 7
    issuing.1 = .ok (.pack 0 1) ∧ (issuing.2.after later).1.targetAt 0 = some 8 ∧
      (issuing.2.after later).1.Rejects (.pack 0 1) := by
  have issued : (((withCapacity 2).run []).create 7).1 = .ok (.pack 0 1) := rfl
  have reach := issued_token_found_iff 2 [] [.dispose (.pack 0 1), .create 8] 7 (.pack 0 1) issued
  exact ⟨issued, rfl, reach.2.1 [] [.create 8] rfl (by decide) (by decide)⟩

/-! ### Once around -/

/-- A table of one slot, which is vacant. -/
def vacant (generation : Nat) : Table Nat := ⟨1, #[⟨generation, none⟩], [0], 0⟩

/-- Creations in the only slot of a table, each disposed at once, from the second
generation of the slot on. -/
def churn (rounds : Nat) : List (Operation Nat) :=
  (List.range rounds).flatMap fun round =>
    [.create 0, .dispose (.pack 0 (cycle (round + 1)))]

theorem run_churn (rounds : Nat) : (vacant (cycle 1)).run (churn rounds) =
    vacant (cycle (rounds + 1)) := by
  induction rounds with
  | zero => rfl
  | succ rounds ih =>
    have index := Token.index_pack (show 0 < maxSlots by decide) (cycle_le (rounds + 1))
    have generation := Token.generation_pack (show 0 < maxSlots by decide) (cycle_le (rounds + 1))
    have next := nextGeneration_cycle (rounds + 1)
    rw [churn, List.range_succ, List.flatMap_append, ← churn, run_append, ih]
    simp [run, perform, create, vacate?, dispose, vacant, index, generation, next]

/-- The token of a disposed target finds the target that takes its slot after all
generations have passed. -/
theorem disposed_token_finds_other_target :
    let first := Token.pack 0 1
    let retired := (withCapacity 1).run [.create 1, .dispose first]
    let table := retired.run (churn (maxGeneration - 1))
    retired.get? first = none ∧ (table.create 2).1 = .ok first ∧
      (table.create 2).2.get? first = some 2 := by
  have retired : (withCapacity 1).run [.create 1, .dispose (.pack 0 1)] = vacant (cycle 1) := rfl
  have around : (vacant (cycle 1)).run (churn (maxGeneration - 1)) = vacant 1 := run_churn _
  dsimp only
  rw [retired, around]
  exact ⟨rfl, rfl, rfl⟩

end SqliteBridge.Handle.Table
