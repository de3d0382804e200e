import SqliteBridge.Handle.Population
import SqliteBridge.Proofs.Handle.Consistency

/-! Objects and their tokens. The references of the objects and the table are changed
one after the other, yet the entries of the table are at all times exactly the pairs of
a token and the object that refers to it. -/
namespace SqliteBridge.Handle.Population

variable {α : Type} [DecidableEq α] {population population' : Population α} {object other : α}
  {token : Token}

structure Matched (population : Population α) : Prop where
  consistent : population.table.Consistent
  get?_iff : ∀ token object,
    population.table.get? token = some object ↔ population.reference object = .live token

omit [DecidableEq α] in
theorem withCapacity_matched (limit : Nat) : Matched (withCapacity limit : Population α) where
  consistent := Table.withCapacity_consistent limit
  get?_iff token object := by
    simp [withCapacity, Table.get?_withCapacity]

/-- An object has taken a token that was not in the table. -/
structure Adopted (population : Population α) (object : α) (token : Token)
    (population' : Population α) : Prop where
  unset : population.reference object = .unset
  fresh : population.table.get? token = none
  reference_eq : ∀ other,
    population'.reference other = if other = object then .live token else population.reference other
  matched : Matched population'

/-- An object has given up its token, if it had one. -/
structure Retired (population : Population α) (object : α) (population' : Population α) :
    Prop where
  reference_eq : ∀ other,
    population'.reference other = if other = object then .disposed else population.reference other
  matched : Matched population'

theorem setReference_self (population : Population α) (object : α) :
    population.setReference object (population.reference object) = population := by
  have same : (fun other => if other = object then population.reference object
      else population.reference other) = population.reference := by
    funext other
    split
    · rename_i equal
      rw [equal]
    · rfl
  rw [setReference, same]

theorem adopted_of_filled {index : Nat} {table' : Table α} (matched : Matched population)
    (unset : population.reference object = .unset)
    (filled : Table.Filled population.table index object table') :
    let token := Token.pack index (population.table.generationAt index)
    Adopted population object token
      ({ population with table := table' }.setReference object (.live token)) := by
  refine ⟨unset, filled.get?_fresh, fun _ => rfl, filled.consistent, fun token other => ?_⟩
  have before := matched.get?_iff token other
  simp only [setReference]
  by_cases same : token = .pack index (population.table.generationAt index)
  · subst same
    rw [filled.get?_fresh] at before
    rw [filled.get?_token]
    by_cases equal : other = object
    · simp [equal]
    · simpa [equal, Ne.symm equal] using before
  · rw [filled.get?_other same]
    by_cases equal : other = object
    · subst equal
      simpa [unset, Ne.symm same] using before
    · simpa [equal] using before

theorem toToken_cases (matched : Matched population) (object : α) :
    (∃ token, population.reference object = .live token ∧
      population.toToken object = (.ok token, population)) ∨
    (population.reference object = .disposed ∧
      population.toToken object = (.error (.aborted disposedMessage), population)) ∨
    (population.reference object = .unset ∧ population.toToken object =
      (.error (.refused (.exhausted population.table.capacity)), population)) ∨
    (population.reference object = .unset ∧ ∃ token population',
      Adopted population object token population' ∧
        population.toToken object = (.ok token, population')) := by
  have unchanged := setReference_self population object
  cases state : population.reference object with
  | live token =>
    rw [state] at unchanged
    exact .inl ⟨token, rfl, by simp [toToken, Reference.adopt, state, unchanged]⟩
  | disposed =>
    rw [state] at unchanged
    exact .inr (.inl ⟨rfl, by simp [toToken, Reference.adopt, state, unchanged]⟩)
  | unset =>
    rw [state] at unchanged
    rcases Table.create_cases matched.consistent object with
      ⟨_, _, refused⟩ | ⟨index, table', filled, created⟩
    · exact .inr (.inr (.inl ⟨rfl, by
        simp [toToken, Reference.adopt, register, state, refused, unchanged]⟩))
    · exact .inr (.inr (.inr ⟨rfl, _, _, adopted_of_filled matched state filled, by
        simp [toToken, Reference.adopt, register, state, created]⟩))

theorem disposeToken_retired (matched : Matched population) (object : α) :
    Retired population object (population.disposeToken object) := by
  cases state : population.reference object with
  | unset | disposed =>
    have kept : population.disposeToken object = population.setReference object .disposed := by
      simp [disposeToken, Reference.dispose, Reference.token?, state]
    rw [kept]
    refine ⟨fun _ => rfl, matched.consistent, fun token other => ?_⟩
    have before := matched.get?_iff token other
    simp only [setReference]
    by_cases equal : other = object
    · subst equal
      simpa [state] using before
    · simpa [equal] using before
  | live token =>
    have found := (matched.get?_iff token object).mpr state
    rcases Table.dispose_cases matched.consistent token with
      ⟨absent, _⟩ | ⟨_, table', live, vacated, disposed⟩
    · rw [absent] at found
      contradiction
    · have removed : population.disposeToken object =
          { population with table := table' }.setReference object .disposed := by
        simp [disposeToken, Reference.dispose, Reference.token?, state, disposed]
      rw [removed]
      refine ⟨fun _ => rfl, vacated.consistent, fun token' other => ?_⟩
      have before := matched.get?_iff token' other
      simp only [setReference]
      by_cases same : token' = token
      · subst same
        rw [vacated.get?_token]
        rw [found] at before
        by_cases equal : other = object
        · simp [equal]
        · simpa [equal, Ne.symm equal] using before
      · rw [vacated.get?_other matched.consistent live same]
        by_cases equal : other = object
        · subst equal
          simpa [state, Ne.symm same] using before
        · simpa [equal] using before

theorem Adopted.get?_eq (adopted : Adopted population object token population')
    (matched : Matched population) (other : Token) :
    population'.table.get? other =
      if other = token then some object else population.table.get? other := by
  ext target
  rw [adopted.matched.get?_iff, adopted.reference_eq]
  by_cases equal : target = object
  · subst equal
    have before := matched.get?_iff other target
    rw [adopted.unset] at before
    by_cases same : other = token
    · simp [same]
    · simpa [same, Ne.symm same] using before
  · rw [if_neg equal, ← matched.get?_iff]
    by_cases same : other = token
    · simp [same, adopted.fresh, Ne.symm equal]
    · rw [if_neg same]

theorem Retired.get?_eq (retired : Retired population object population')
    (matched : Matched population) (live : population.reference object = .live token)
    (other : Token) :
    population'.table.get? other = if other = token then none else population.table.get? other := by
  ext target
  rw [retired.matched.get?_iff, retired.reference_eq]
  have before := matched.get?_iff other target
  by_cases equal : target = object
  · subst equal
    rw [live] at before
    by_cases same : other = token
    · simp [same]
    · simpa [same, Ne.symm same] using before
  · rw [if_neg equal, ← before]
    by_cases same : other = token
    · have found := (matched.get?_iff token object).mpr live
      simp [same, found, Ne.symm equal]
    · rw [if_neg same]

/-! ### References -/

theorem reference_disposeToken (population : Population α) (object other : α) :
    (population.disposeToken object).reference other =
      if other = object then .disposed else population.reference other := by
  unfold disposeToken Reference.dispose
  cases (population.reference object).token? <;> rfl

/-- Asking for a token takes none away. -/
theorem reference_toToken (population : Population α) (object other : α)
    (free : ((population.toToken object).2.reference other).token? = none) :
    (population.reference other).token? = none := by
  unfold toToken setReference at free
  dsimp only at free
  split at free
  · rename_i same
    subst same
    cases state : population.reference other with
    | live token =>
      rw [state] at free
      contradiction
    | unset | disposed => rfl
  · exact free

theorem reference_toToken_of_ne (population : Population α) {object other : α}
    (apart : other ≠ object) :
    (population.toToken object).2.reference other = population.reference other :=
  if_neg apart

/-! ### Tokens of usable objects -/

/-- An object that has a token may be used, and one that is not known never had a token. -/
structure Guards (population : Population α) (isUsable isKnown : α → Prop) : Prop where
  matched : Matched population
  usable : ∀ object token, population.reference object = .live token → isUsable object
  unset : ∀ object, ¬ isKnown object → population.reference object = .unset

namespace Guards

variable {isUsable isUsable' isKnown isKnown' : α → Prop}

omit [DecidableEq α] in
theorem mono (guards : Guards population isUsable isKnown)
    (usable : ∀ object token, population.reference object = .live token →
      isUsable object → isUsable' object)
    (known : ∀ object, isKnown object → isKnown' object) :
    Guards population isUsable' isKnown' where
  matched := guards.matched
  usable object token live := usable object token live (guards.usable object token live)
  unset object unknown := guards.unset object (mt (known object) unknown)

omit [DecidableEq α] in
theorem of_get? (guards : Guards population isUsable isKnown)
    (found : population.table.get? token = some object) : isUsable object :=
  guards.usable object token ((guards.matched.get?_iff token object).mp found)

theorem adopted (guards : Guards population isUsable isKnown) (usable : isUsable object)
    (known : isKnown object) (adopted : Adopted population object token population') :
    Guards population' isUsable isKnown where
  matched := adopted.matched
  usable other token' live := by
    rw [adopted.reference_eq] at live
    split at live
    · rename_i same
      exact same ▸ usable
    · exact guards.usable other token' live
  unset other unknown := by
    have different : other ≠ object := fun same => unknown (same ▸ known)
    rw [adopted.reference_eq, if_neg different]
    exact guards.unset other unknown

theorem retired (guards : Guards population isUsable isKnown) (known : isKnown object)
    (retired : Retired population object population') : Guards population' isUsable isKnown where
  matched := retired.matched
  usable other token live := by
    rw [retired.reference_eq] at live
    split at live
    · contradiction
    · exact guards.usable other token live
  unset other unknown := by
    have different : other ≠ object := fun same => unknown (same ▸ known)
    rw [retired.reference_eq, if_neg different]
    exact guards.unset other unknown

end Guards

end SqliteBridge.Handle.Population
