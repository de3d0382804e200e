import SqliteBridge.Proofs.Handle.Population

/-! Runs in which objects ask for tokens, resolve tokens and give their tokens up. In every
state of a run the entries of the table are the pairs of a token and the object that refers
to it, so an object keeps its token until it gives it up, and after that it never has one
again. A request that a full table refuses changes nothing. -/
namespace SqliteBridge.Handle.Population

variable {α : Type} [DecidableEq α] {population : Population α} {object other : α} {token : Token}

inductive Operation (α : Type) where
  | toToken (object : α)
  | fromToken (token : Token)
  | disposeToken (object : α)

/-- The population after an operation. To resolve a token changes nothing. -/
def follow (population : Population α) : Operation α → Population α
  | .toToken object => (population.toToken object).2
  | .fromToken _ => population
  | .disposeToken object => population.disposeToken object

/-- The population after a run. -/
def run (population : Population α) (operations : List (Operation α)) : Population α :=
  operations.foldl follow population

/-! ### Single operations -/

theorem toToken_live (live : population.reference object = .live token) :
    population.toToken object = (.ok token, population) := by
  have unchanged := setReference_self population object
  rw [live] at unchanged
  simp [toToken, Reference.adopt, live, unchanged]

theorem toToken_disposed (disposed : population.reference object = .disposed) :
    population.toToken object = (.error (.aborted disposedMessage), population) := by
  have unchanged := setReference_self population object
  rw [disposed] at unchanged
  simp [toToken, Reference.adopt, disposed, unchanged]

theorem disposeToken_disposed (disposed : population.reference object = .disposed) :
    population.disposeToken object = population := by
  have unchanged := setReference_self population object
  rw [disposed] at unchanged
  simp [disposeToken, Reference.dispose, Reference.token?, disposed, unchanged]

theorem reference_of_toToken (matched : Matched population)
    (made : (population.toToken object).1 = .ok token) :
    (population.toToken object).2.reference object = .live token := by
  rcases toToken_cases matched object with
    ⟨token', live, same⟩ | ⟨_, same⟩ | ⟨_, same⟩ | ⟨_, token', population', adopted, same⟩ <;>
    rw [same] at made ⊢ <;> cases made
  · exact live
  · rw [adopted.reference_eq, if_pos rfl]

theorem follow_matched (matched : Matched population) (operation : Operation α) :
    Matched (population.follow operation) := by
  cases operation with
  | toToken object =>
    rcases toToken_cases matched object with
      ⟨_, _, same⟩ | ⟨_, same⟩ | ⟨_, same⟩ | ⟨_, _, _, adopted, same⟩ <;>
      rw [follow, same]
    · exact matched
    · exact matched
    · exact matched
    · exact adopted.matched
  | fromToken _ => exact matched
  | disposeToken object => exact (disposeToken_retired matched object).matched

/-- Only to ask for a token gives a reference one. -/
theorem reference_follow_toToken (matched : Matched population)
    (set : population.reference other ≠ .unset) :
    (population.toToken object).2.reference other = population.reference other := by
  rcases toToken_cases matched object with
    ⟨_, _, same⟩ | ⟨_, same⟩ | ⟨_, same⟩ | ⟨unset, _, _, adopted, same⟩ <;> rw [same]
  have different : other ≠ object := fun equal => set (equal ▸ unset)
  rw [adopted.reference_eq, if_neg different]

theorem live_follow (matched : Matched population)
    (live : population.reference object = .live token) {operation : Operation α}
    (kept : operation ≠ .disposeToken object) :
    (population.follow operation).reference object = .live token := by
  cases operation with
  | toToken _ => exact (reference_follow_toToken matched (by simp [live])).trans live
  | fromToken _ => exact live
  | disposeToken other =>
    have different : object ≠ other := fun equal => kept (equal ▸ rfl)
    rw [follow, reference_disposeToken, if_neg different, live]

theorem disposed_follow (matched : Matched population)
    (disposed : population.reference object = .disposed) (operation : Operation α) :
    (population.follow operation).reference object = .disposed := by
  cases operation with
  | toToken _ => exact (reference_follow_toToken matched (by simp [disposed])).trans disposed
  | fromToken _ => exact disposed
  | disposeToken other => rw [follow, reference_disposeToken, disposed, ite_self]

/-! ### Runs -/

theorem run_matched (matched : Matched population) (operations : List (Operation α)) :
    Matched (population.run operations) := by
  induction operations generalizing population with
  | nil => exact matched
  | cons operation rest ih => exact ih (follow_matched matched operation)

theorem live_run (matched : Matched population) (live : population.reference object = .live token)
    {operations : List (Operation α)} (kept : .disposeToken object ∉ operations) :
    (population.run operations).reference object = .live token := by
  induction operations generalizing population with
  | nil => exact live
  | cons operation rest ih =>
    rw [List.mem_cons, not_or] at kept
    obtain ⟨first, later⟩ := kept
    exact ih (follow_matched matched operation) (live_follow matched live (Ne.symm first)) later

theorem disposed_run (matched : Matched population)
    (disposed : population.reference object = .disposed) (operations : List (Operation α)) :
    (population.run operations).reference object = .disposed := by
  induction operations generalizing population with
  | nil => exact disposed
  | cons operation rest ih =>
    exact ih (follow_matched matched operation) (disposed_follow matched disposed operation)

/-! ### Resolving -/

omit [DecidableEq α] in
theorem fromToken_eq_ok_iff (matched : Matched population) :
    population.fromToken token = .ok object ↔ population.reference object = .live token := by
  rw [← matched.get?_iff]
  unfold fromToken Table.resolve
  cases population.table.get? token <;> simp

/-! ### A full table -/

theorem toToken_unset (unset : population.reference object = .unset) :
    (population.toToken object).1 =
      match (population.table.create object).1 with
      | .ok token => .ok token
      | .error error => .error (.refused error) := by
  simp only [toToken, Reference.adopt, unset, register]
  rcases population.table.create object with ⟨_ | _, _⟩ <;> rfl

/-- A token is refused exactly when the object has none and never had one, and every slot
that the table may have is taken. -/
theorem toToken_refused_iff (matched : Matched population) :
    (population.toToken object).1 = .error (.refused (.exhausted population.table.capacity)) ↔
      population.reference object = .unset ∧ population.table.size = population.table.capacity := by
  cases state : population.reference object with
  | live token => simp [toToken_live state]
  | disposed => simp [toToken_disposed state]
  | unset =>
    rw [Table.size, ← Table.create_refused_iff matched.consistent object, toToken_unset state]
    rcases Table.create_cases matched.consistent object with
      ⟨_, _, refused⟩ | ⟨_, _, _, created⟩
    · simp [refused]
    · simp [created]

/-- A token is granted while there is room for it. -/
theorem toToken_of_room (matched : Matched population)
    (unset : population.reference object = .unset)
    (room : population.table.size ≠ population.table.capacity) :
    ∃ token, (population.toToken object).1 = .ok token ∧
      (population.toToken object).2.table.size = population.table.size + 1 ∧
      (population.toToken object).2.table.capacity = population.table.capacity := by
  rcases Table.create_cases matched.consistent object with
    ⟨_, _, refused⟩ | ⟨_, table, filled, created⟩
  · have full := (Table.create_refused_iff matched.consistent object).mp (congrArg Prod.fst refused)
    exact absurd full room
  · refine ⟨_, by rw [toToken_unset unset, created], ?_⟩
    have grown : (population.toToken object).2.table = table := by
      simp [toToken, Reference.adopt, unset, register, created, setReference]
    rw [grown]
    exact ⟨filled.live_eq, filled.capacity_eq⟩

/-- A token that is given up leaves its place to another. -/
theorem size_disposeToken (matched : Matched population)
    (live : population.reference object = .live token) :
    (population.disposeToken object).table.size + 1 = population.table.size ∧
      (population.disposeToken object).table.capacity = population.table.capacity := by
  have found := (matched.get?_iff token object).mpr live
  rcases Table.dispose_cases matched.consistent token with
    ⟨absent, _⟩ | ⟨_, table', _, vacated, disposed⟩
  · rw [absent] at found
    contradiction
  · have removed : (population.disposeToken object).table = table' := by
      simp [disposeToken, Reference.dispose, Reference.token?, live, disposed, setReference]
    rw [removed]
    exact ⟨vacated.live_eq, vacated.capacity_eq⟩

theorem toToken_refused {error : Error} (matched : Matched population)
    (refused : (population.toToken object).1 = .error (.refused error)) :
    error = .exhausted population.table.capacity ∧ (population.toToken object).2 = population := by
  rcases toToken_cases matched object with
    ⟨_, _, same⟩ | ⟨_, same⟩ | ⟨_, same⟩ | ⟨_, _, _, _, same⟩ <;> rw [same] at refused ⊢ <;>
    cases refused
  exact ⟨rfl, rfl⟩

/-- What was refused is granted as soon as another object gives its token up. -/
theorem toToken_retry {error : Error} (matched : Matched population)
    (refused : (population.toToken object).1 = .error (.refused error))
    (live : population.reference other = .live token) :
    ∃ fresh, ((population.disposeToken other).toToken object).1 = .ok fresh := by
  obtain ⟨rfl, _⟩ := toToken_refused matched refused
  obtain ⟨unset, full⟩ := (toToken_refused_iff matched).mp refused
  obtain ⟨size, capacity⟩ := size_disposeToken matched live
  have matched' := (disposeToken_retired matched other).matched
  have different : object ≠ other := by
    rintro rfl
    rw [unset] at live
    contradiction
  have unset' : (population.disposeToken other).reference object = .unset := by
    rw [reference_disposeToken, if_neg different, unset]
  rcases toToken_cases matched' object with
    ⟨_, live', _⟩ | ⟨disposed', _⟩ | ⟨_, same⟩ | ⟨_, fresh, _, _, same⟩
  · rw [unset'] at live'
    contradiction
  · rw [unset'] at disposed'
    contradiction
  · have full' := ((toToken_refused_iff matched').mp (congrArg Prod.fst same)).2
    omega
  · exact ⟨fresh, congrArg Prod.fst same⟩

/-! ### What callers can rely on -/

structure OneToOne (population : Population α) : Prop where
  entries : ∀ token object,
    population.table.get? token = some object ↔ population.reference object = .live token
  /-- The token of an object is the same until the object gives it up, and stands for it. -/
  stable : ∀ object token, (population.toToken object).1 = .ok token →
    ∀ later, .disposeToken object ∉ later →
      let after := (population.toToken object).2.run later
      after.toToken object = (.ok token, after) ∧ after.fromToken token = .ok object
  exclusive : ∀ object other token, population.reference object = .live token →
    population.reference other = .live token → object = other
  idempotent : ∀ object,
    (population.disposeToken object).disposeToken object = population.disposeToken object
  /-- An object that has given up its token never gets another, and no token finds it. -/
  retired : ∀ object later,
    let after := (population.disposeToken object).run later
    after.toToken object = (.error (.aborted disposedMessage), after) ∧
      ∀ token, after.fromToken token ≠ .ok object
  /-- A full table refuses a first token and nothing changes, so that the object gets one as
  soon as there is room. -/
  refused : ∀ object error, (population.toToken object).1 = .error (.refused error) →
    error = .exhausted population.table.capacity ∧
      (population.toToken object).2 = population ∧
      ∀ other token, population.reference other = .live token →
        ∃ fresh, ((population.disposeToken other).toToken object).1 = .ok fresh
  refused_iff : ∀ object,
    (population.toToken object).1 = .error (.refused (.exhausted population.table.capacity)) ↔
      population.reference object = .unset ∧ population.table.size = population.table.capacity

theorem Matched.oneToOne (matched : Matched population) : OneToOne population where
  entries := matched.get?_iff
  stable object token made later kept := by
    have matched' := follow_matched matched (.toToken object)
    have live := live_run matched' (reference_of_toToken matched made) kept
    exact ⟨toToken_live live, (fromToken_eq_ok_iff (run_matched matched' later)).mpr live⟩
  exclusive object other token live live' := by
    have found := (matched.get?_iff token object).mpr live
    have found' := (matched.get?_iff token other).mpr live'
    exact Option.some.inj (found.symm.trans found')
  idempotent object := by
    apply disposeToken_disposed
    rw [reference_disposeToken, if_pos rfl]
  retired object later := by
    have matched' := (disposeToken_retired matched object).matched
    have given : (population.disposeToken object).reference object = .disposed := by
      rw [reference_disposeToken, if_pos rfl]
    have disposed := disposed_run matched' given later
    refine ⟨toToken_disposed disposed, fun token found => ?_⟩
    have live := (fromToken_eq_ok_iff (run_matched matched' later)).mp found
    rw [disposed] at live
    contradiction
  refused object error refused := by
    obtain ⟨exhausted, unchanged⟩ := toToken_refused matched refused
    exact ⟨exhausted, unchanged, fun _ _ live => toToken_retry matched refused live⟩
  refused_iff _ := toToken_refused_iff matched

/-- Objects and tokens correspond in every state of a run, whatever the room of the table. -/
theorem run_oneToOne (limit : Nat) (operations : List (Operation α)) :
    OneToOne ((withCapacity limit : Population α).run operations) :=
  (run_matched (withCapacity_matched limit) operations).oneToOne

end SqliteBridge.Handle.Population
