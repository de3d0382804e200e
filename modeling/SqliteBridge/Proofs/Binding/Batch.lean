import SqliteBridge.Proofs.Binding.Descriptors

/-! The derivation of a list of operations gives a pair for each of them, in order, or none at all.
It fails exactly if the registry lacks a type that an operation uses, and then names the first one:
the operations are taken in order, and of an operation the parameters before the result. -/
namespace SqliteBridge.Binding

/-- The types of an operation in the order in which they are looked up. -/
def Operation.types (operation : Operation) : List LogicalType :=
  operation.parameters ++ [operation.result]

/-- `pair` is an operation with the native method that the registry gives it. -/
structure Exposes (registry : Registry) (start : String) (operation : Operation) (pair : Pair) :
    Prop where
  logical_eq : pair.logical = operation.signature
  fallible_eq : pair.fallible = operation.fallible
  name_eq : pair.boundary.name = methodName start operation.name
  parameters : List.Forall₂ registry.Maps operation.parameters pair.boundary.parameters
  result : registry.Maps operation.result pair.boundary.result
  descriptor_eq : pair.descriptor = methodDescriptor pair.boundary.parameters pair.boundary.result

/-- The registry has every type that the operations use. -/
def AllRegistered (registry : Registry) (operations : List Operation) : Prop :=
  ∀ operation ∈ operations, ∀ type ∈ operation.types, registry.isRegistered type = true

/-- `operation` is the first one that uses a type which the registry lacks, and `type` is the first
such type that it uses. -/
structure FirstOffence (registry : Registry) (operations : List Operation) (operation : Operation)
    (type : LogicalType) : Prop where
  unregistered : registry.isRegistered type = false
  operation_first : ∃ earlier later, operations = earlier ++ operation :: later ∧
    AllRegistered registry earlier
  type_first : ∃ before after, operation.types = before ++ type :: after ∧
    ∀ other ∈ before, registry.isRegistered other = true

variable {registry : Registry} {start : String} {operation : Operation}
  {operations : List Operation} {types : List LogicalType} {type : LogicalType}

/-- The types that are left are those which were not removed. -/
theorem Registry.isRegistered_foldl_without (removed : List LogicalType) (type : LogicalType) :
    (removed.foldl Registry.without .standard).isRegistered type = true ↔ type ∉ removed := by
  obtain ⟨entry, found, -⟩ := find?_standard type
  rw [Registry.isRegistered, Registry.find?_foldl_without, found]
  split <;> simp [*]

/-! ### Success -/

theorem boundaryType_eq_ok_iff {name : String} {boundary : BoundaryType} :
    Pair.boundaryType registry name type = .ok boundary ↔ registry.Maps type boundary := by
  rcases boundaryType_cases registry name type with ⟨absent, refused⟩ | ⟨entry, found, mapped⟩
  · simp [refused, Registry.Maps, absent]
  · simp [mapped, Registry.Maps, found]

theorem boundaryTypes_eq_ok_iff {name : String} {boundaries : List BoundaryType} :
    Pair.boundaryTypes registry name types = .ok boundaries ↔
      List.Forall₂ registry.Maps types boundaries := by
  refine ⟨maps_of_boundaryTypes, fun maps => ?_⟩
  induction maps with
  | nil => rfl
  | cons first _ derived =>
    rw [Pair.boundaryTypes, boundaryType_eq_ok_iff.mpr first, derived]
    rfl

theorem pair_eq_ok_iff {pair : Pair} :
    operation.pair start registry = .ok pair ↔ Exposes registry start operation pair := by
  constructor
  · intro made
    obtain ⟨parameters, mapped, made⟩ := exists_of_bind_eq_ok made
    obtain ⟨result, found, made⟩ := exists_of_bind_eq_ok made
    cases Except.ok.inj made
    exact ⟨rfl, rfl, rfl, boundaryTypes_eq_ok_iff.mp mapped, boundaryType_eq_ok_iff.mp found, rfl⟩
  · rintro ⟨logical, fallible, name, parameters, result, descriptor⟩
    obtain ⟨_, ⟨_, _, _⟩, _, _⟩ := pair
    dsimp only at logical fallible name parameters result descriptor
    subst logical fallible name descriptor
    have mapped : Pair.boundaryTypes registry operation.name operation.parameters = .ok _ :=
      boundaryTypes_eq_ok_iff.mpr parameters
    have found : Pair.boundaryType registry operation.name operation.result = .ok _ :=
      boundaryType_eq_ok_iff.mpr result
    rw [Operation.pair, Pair.derive, Operation.signature]
    dsimp only
    rw [mapped, found]
    rfl

theorem pairs_eq_ok_iff {pairs : List Pair} :
    Operation.pairs operations start registry = .ok pairs ↔
      List.Forall₂ (Exposes registry start) operations pairs := by
  constructor
  · intro made
    induction operations generalizing pairs with
    | nil =>
      cases Except.ok.inj made
      exact .nil
    | cons operation rest ih =>
      obtain ⟨pair, first, made⟩ := exists_of_bind_eq_ok made
      obtain ⟨others, more, made⟩ := exists_of_bind_eq_ok made
      cases Except.ok.inj made
      exact .cons (pair_eq_ok_iff.mp first) (ih more)
  · intro exposed
    induction exposed with
    | nil => rfl
    | cons first _ made =>
      rw [Operation.pairs, pair_eq_ok_iff.mpr first, made]
      rfl

/-! ### Failure -/

theorem missing?_eq_none_iff :
    registry.missing? types = none ↔ ∀ type ∈ types, registry.isRegistered type = true := by
  simp [Registry.missing?]

theorem missing?_eq_some_iff :
    registry.missing? types = some type ↔ registry.isRegistered type = false ∧
      ∃ before after, types = before ++ type :: after ∧
        ∀ other ∈ before, registry.isRegistered other = true := by
  simp [Registry.missing?, List.find?_eq_some_iff_append]

theorem derivationFault?_eq_none_iff :
    operation.derivationFault? registry = none ↔
      ∀ type ∈ operation.types, registry.isRegistered type = true := by
  rw [Operation.derivationFault?, Option.map_eq_none_iff]
  exact missing?_eq_none_iff

theorem findSome?_derivationFault?_eq_none_iff :
    operations.findSome? (·.derivationFault? registry) = none ↔
      AllRegistered registry operations := by
  rw [List.findSome?_eq_none_iff]
  exact forall₂_congr fun _ _ => derivationFault?_eq_none_iff

theorem pairs_eq_error_iff_firstOffence {fault : Fault} :
    Operation.pairs operations start registry = .error fault ↔
      ∃ operation type, fault = .unregistered type operation.name ∧
        FirstOffence registry operations operation type := by
  rw [pairs_eq_error_iff, List.findSome?_eq_some_iff]
  constructor
  · rintro ⟨earlier, operation, later, split, refused, accepted⟩
    obtain ⟨type, missing, rfl⟩ := Option.map_eq_some_iff.mp refused
    obtain ⟨unregistered, first⟩ := missing?_eq_some_iff.mp missing
    have earlier_registered : AllRegistered registry earlier := fun other listed =>
      derivationFault?_eq_none_iff.mp (accepted other listed)
    exact ⟨operation, type, rfl, unregistered, ⟨earlier, later, split, earlier_registered⟩, first⟩
  · rintro ⟨operation, type, rfl, unregistered, ⟨earlier, later, split, registered⟩, first⟩
    have missing : registry.missing? operation.types = some type :=
      missing?_eq_some_iff.mpr ⟨unregistered, first⟩
    exact ⟨earlier, operation, later, split, congrArg (Option.map _) missing,
      fun other listed => derivationFault?_eq_none_iff.mpr (registered other listed)⟩

theorem exists_pairs_iff :
    (∃ pairs, Operation.pairs operations start registry = .ok pairs) ↔
      AllRegistered registry operations := by
  rw [← findSome?_derivationFault?_eq_none_iff]
  rcases pairs_cases registry start operations with ⟨fault, first, refused⟩ | ⟨none, pairs, -, made⟩
  · simp [first, refused]
  · simp [none, made]

/-- Whatever types the registry lacks, a derivation that finds all types of its operations gives
what exposes each of them, and any other stops at the first offence. -/
theorem pairs_all_or_nothing (removed : List LogicalType) (config : Config)
    (operations : List Operation) :
    let registry := removed.foldl Registry.without .standard
    let derivation := Operation.pairs operations config.methodStart registry
    (∀ type, registry.isRegistered type = true ↔ type ∉ removed) ∧
    ((∃ pairs, derivation = .ok pairs) ↔ AllRegistered registry operations) ∧
    (∀ pairs, derivation = .ok pairs ↔
      List.Forall₂ (Exposes registry config.methodStart) operations pairs) ∧
    ∀ fault, derivation = .error fault ↔
      ∃ operation type, fault = .unregistered type operation.name ∧
        FirstOffence registry operations operation type :=
  ⟨Registry.isRegistered_foldl_without removed, exists_pairs_iff, fun _ => pairs_eq_ok_iff,
    fun _ => pairs_eq_error_iff_firstOffence⟩

end SqliteBridge.Binding
