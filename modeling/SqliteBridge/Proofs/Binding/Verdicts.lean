import Mathlib.Data.List.Forall2
import SqliteBridge.Binding.Output
import SqliteBridge.Binding.Toolkit
import SqliteBridge.Proofs.Binding.Casing

/-! Types are looked up twice, when a pair is derived from an operation and when its
trampoline is written. Both checks take the parameters in order and the result after them,
and both stop at the first type that is not registered; but what is written for a void
method has no result to convert, so only the derivation looks that type up. -/
namespace SqliteBridge.Binding

variable {tools : Toolkit} {registry : Registry}

namespace Registry

/-- The first of some types that is not registered. -/
def missing? (registry : Registry) (types : List LogicalType) : Option LogicalType :=
  types.find? fun type => !registry.isRegistered type

theorem missing?_cons_registered {type : LogicalType} {entry : TypeEntry}
    (found : registry.find? type = some entry) (rest : List LogicalType) :
    registry.missing? (type :: rest) = registry.missing? rest := by
  simp [missing?, isRegistered, found]

theorem missing?_cons_missing {type : LogicalType} (absent : registry.find? type = none)
    (rest : List LogicalType) : registry.missing? (type :: rest) = some type := by
  simp [missing?, isRegistered, absent]

theorem missing?_append (registry : Registry) (types others : List LogicalType) :
    registry.missing? (types ++ others) = (registry.missing? types).or (registry.missing? others) :=
  List.find?_append

theorem find?_without (registry : Registry) (removed type : LogicalType) :
    (registry.without removed).find? type =
      if type = removed then none else registry.find? type := by
  rw [find?, without, List.find?_filter]
  split
  · rename_i same
    rw [List.find?_eq_none]
    intro entry _ kept
    simp [same] at kept
  · rename_i different
    unfold find?
    congr
    funext entry
    by_cases same : entry.logical = type
    · simp [same, different]
    · simp [same]

theorem find?_foldl_without (registry : Registry) (removed : List LogicalType)
    (type : LogicalType) :
    (removed.foldl without registry).find? type =
      if type ∈ removed then none else registry.find? type := by
  induction removed generalizing registry with
  | nil => simp
  | cons first rest ih =>
    rw [List.foldl_cons, ih, find?_without]
    by_cases same : type = first
    · simp [same]
    · simp [same]

end Registry

theorem exists_of_bind_eq_ok {ε α β : Type} {first : Except ε α} {next : α → Except ε β}
    {result : β} (accepted : first >>= next = .ok result) :
    ∃ value, first = .ok value ∧ next value = .ok result := by
  cases first with
  | error fault => contradiction
  | ok value => exact ⟨value, rfl, accepted⟩

theorem refuse_eq_ok {α : Type} {result : Except Fault α} {value : α}
    (accepted : Trampoline.refuse result = .ok value) : result = .ok value := by
  cases result with
  | ok found => rw [Except.ok.inj accepted]
  | error fault => contradiction

/-! ### Derivation -/

namespace Operation

/-- The fault of an operation in the derivation of its pair. -/
def derivationFault? (registry : Registry) (operation : Operation) : Option Fault :=
  (registry.missing? (operation.parameters ++ [operation.result])).map
    (.unregistered · operation.name)

end Operation

theorem boundaryType_cases (registry : Registry) (operation : String) (type : LogicalType) :
    (registry.find? type = none ∧
      Pair.boundaryType registry operation type = .error (.unregistered type operation)) ∨
    ∃ entry, registry.find? type = some entry ∧
      Pair.boundaryType registry operation type = .ok entry.boundary := by
  cases found : registry.find? type with
  | none => exact .inl ⟨rfl, by rw [Pair.boundaryType, found]⟩
  | some entry => exact .inr ⟨entry, rfl, by rw [Pair.boundaryType, found]⟩

theorem boundaryTypes_cases (registry : Registry) (operation : String) (types : List LogicalType) :
    (∃ type, registry.missing? types = some type ∧
      Pair.boundaryTypes registry operation types = .error (.unregistered type operation)) ∨
    (registry.missing? types = none ∧ ∃ boundaries, boundaries.length = types.length ∧
      Pair.boundaryTypes registry operation types = .ok boundaries) := by
  induction types with
  | nil => exact .inr ⟨rfl, [], rfl, rfl⟩
  | cons type rest ih =>
    rw [Pair.boundaryTypes]
    rcases boundaryType_cases registry operation type with
      ⟨absent, refused⟩ | ⟨entry, found, mapped⟩
    · exact .inl ⟨type, Registry.missing?_cons_missing absent rest, by rw [refused]; rfl⟩
    · rw [mapped, Registry.missing?_cons_registered found]
      rcases ih with ⟨missing, first, refused⟩ | ⟨none, boundaries, length, derived⟩
      · exact .inl ⟨missing, first, by rw [refused]; rfl⟩
      · exact .inr ⟨none, entry.boundary :: boundaries, congrArg (· + 1) length,
          by rw [derived]; rfl⟩

/-- `pair` is what an operation is derived to. -/
structure Derived (registry : Registry) (start : String) (operation : Operation) (pair : Pair) :
    Prop where
  logical_eq : pair.logical = operation.signature
  name_eq : pair.boundary.name = methodName start operation.name
  length_eq : pair.boundary.parameters.length = operation.parameters.length
  result_eq : (registry.find? operation.result).map TypeEntry.boundary = some pair.boundary.result
  descriptor_eq : pair.descriptor = methodDescriptor pair.boundary.parameters pair.boundary.result

theorem pair_cases (registry : Registry) (start : String) (operation : Operation) :
    (∃ fault, operation.derivationFault? registry = some fault ∧
      operation.pair start registry = .error fault) ∨
    (operation.derivationFault? registry = none ∧ ∃ pair, Derived registry start operation pair ∧
      operation.pair start registry = .ok pair) := by
  rw [Operation.derivationFault?, Registry.missing?_append, Operation.pair, Pair.derive]
  rcases boundaryTypes_cases registry operation.name operation.parameters with
    ⟨type, first, refused⟩ | ⟨none, boundaries, length, derived⟩
  · exact .inl ⟨_, by rw [first]; rfl, by rw [Operation.signature, refused]; rfl⟩
  · rw [none, Option.none_or]
    rcases boundaryType_cases registry operation.name operation.result with
      ⟨absent, refused⟩ | ⟨entry, found, mapped⟩
    · rw [Registry.missing?_cons_missing absent]
      exact .inl ⟨_, rfl, by rw [Operation.signature, derived, refused]; rfl⟩
    · rw [Registry.missing?_cons_registered found]
      refine .inr ⟨rfl, _, ⟨rfl, rfl, length, ?_, rfl⟩, by rw [Operation.signature, derived, mapped]; rfl⟩
      rw [found]
      rfl

theorem pairs_cases (registry : Registry) (start : String) (operations : List Operation) :
    (∃ fault, operations.findSome? (·.derivationFault? registry) = some fault ∧
      Operation.pairs operations start registry = .error fault) ∨
    (operations.findSome? (·.derivationFault? registry) = none ∧
      ∃ pairs, List.Forall₂ (Derived registry start) operations pairs ∧
        Operation.pairs operations start registry = .ok pairs) := by
  induction operations with
  | nil => exact .inr ⟨rfl, [], .nil, rfl⟩
  | cons operation rest ih =>
    rw [Operation.pairs, List.findSome?_cons]
    rcases pair_cases registry start operation with
      ⟨fault, first, refused⟩ | ⟨none, pair, derived, made⟩
    · exact .inl ⟨fault, by rw [first], by rw [refused]; rfl⟩
    · rw [none, made]
      rcases ih with ⟨fault, first, refused⟩ | ⟨none, pairs, all, made⟩
      · exact .inl ⟨fault, first, by rw [refused]; rfl⟩
      · exact .inr ⟨none, pair :: pairs, .cons derived all, by rw [made]; rfl⟩

theorem pairs_eq_error_iff {start : String} {operations : List Operation} {fault : Fault} :
    Operation.pairs operations start registry = .error fault ↔
      operations.findSome? (·.derivationFault? registry) = some fault := by
  rcases pairs_cases registry start operations with
    ⟨found, first, refused⟩ | ⟨none, _, -, accepted⟩
  · rw [first, refused, Except.error.injEq, Option.some.injEq]
  · rw [none, accepted]
    simp

/-! ### Writing -/

theorem convert_cases (registry : Registry) (type : LogicalType) (direction : Direction)
    (value : Identifier) (context : ConversionContext) :
    (registry.find? type = none ∧ registry.convert type direction value context = none) ∨
    ∃ entry conversion, registry.find? type = some entry ∧
      registry.convert type direction value context = some conversion := by
  rw [Registry.convert]
  cases registry.find? type with
  | none => exact .inl ⟨rfl, rfl⟩
  | some entry =>
    dsimp only
    split
    · exact .inr ⟨entry, _, rfl, rfl⟩
    · exact .inr ⟨entry, _, rfl, rfl⟩

theorem parameters_cases (registry : Registry) (context : ConversionContext) (operation : String)
    (position : Nat) (typed : List (LogicalType × BoundaryType)) :
    (∃ type, registry.missing? (typed.map Prod.fst) = some type ∧
      Parameter.list registry context operation position typed =
        .error (.unregistered type operation)) ∨
    (registry.missing? (typed.map Prod.fst) = none ∧ ∃ parameters,
      Parameter.list registry context operation position typed = .ok parameters) := by
  induction typed generalizing position with
  | nil => exact .inr ⟨rfl, [], rfl⟩
  | cons first rest ih =>
    obtain ⟨logical, boundary⟩ := first
    rw [Parameter.list, List.map_cons]
    rcases convert_cases registry logical .fromBoundary (Parameter.nameAt position) context with
      ⟨absent, none⟩ | ⟨entry, conversion, found, converted⟩
    · rw [absent, Registry.missing?_cons_missing absent]
      exact .inl ⟨logical, rfl, rfl⟩
    · rw [found, converted, Registry.missing?_cons_registered found]
      rcases ih (position + 1) with ⟨type, first, refused⟩ | ⟨none, parameters, listed⟩
      · exact .inl ⟨type, first, by dsimp only; rw [refused]; rfl⟩
      · exact .inr ⟨none, _, by dsimp only; rw [listed]; rfl⟩

namespace Pair

/-- The types whose values the trampoline of a pair converts. A void method returns nothing
that would be converted. -/
def converted (pair : Pair) : List LogicalType :=
  pair.logical.parameters ++ if pair.boundary.result.isVoid then [] else [pair.logical.result]

theorem missing?_converted {pair : Pair}
    (missing : registry.missing? (pair.logical.parameters ++ [pair.logical.result]) = none) :
    registry.missing? pair.converted = none := by
  rw [Registry.missing?_append, Option.or_eq_none_iff] at missing
  rw [converted, Registry.missing?_append, Option.or_eq_none_iff]
  refine ⟨missing.1, ?_⟩
  split
  · rfl
  · exact missing.2

/-- How the writing of a pair ends without source. -/
def writingHalt? (registry : Registry) (pair : Pair) : Option Halt :=
  match registry.missing? pair.converted with
  | some type => some (.refused (.unregistered type pair.logical.name))
  | none =>
    match Identifier.ofText (snakeCase pair.boundary.name) with
    | .ok _ => none
    | .error message => some (.aborted message)

/-- What the writer takes for granted of a pair, and a derivation provides. -/
structure WellFormed (pair : Pair) : Prop where
  length_eq : pair.boundary.parameters.length = pair.logical.parameters.length
  named : ∃ name, Identifier.ofText pair.logical.name = .ok name

end Pair

theorem exists_of_forall₂ {α β : Type} {related : α → β → Prop} {firsts : List α}
    {seconds : List β} (all : List.Forall₂ related firsts seconds) :
    ∀ second ∈ seconds, ∃ first ∈ firsts, related first second := by
  induction all with
  | nil => exact fun second listed => absurd listed List.not_mem_nil
  | cons head _ ih =>
    rw [List.forall_mem_cons]
    refine ⟨⟨_, List.mem_cons_self, head⟩, fun second listed => ?_⟩
    obtain ⟨first, listed, both⟩ := ih second listed
    exact ⟨first, List.mem_cons_of_mem _ listed, both⟩

theorem exists_derived {start : String} {operations : List Operation} {pairs : List Pair}
    (derived : List.Forall₂ (Derived registry start) operations pairs) :
    ∀ pair ∈ pairs, ∃ operation ∈ operations, Derived registry start operation pair :=
  exists_of_forall₂ derived

theorem wellFormed_of_derived {start : String} {operations : List Operation} {pairs : List Pair}
    (derived : List.Forall₂ (Derived registry start) operations pairs)
    (named : ∀ operation ∈ operations, ∃ name, Identifier.ofText operation.name = .ok name) :
    ∀ pair ∈ pairs, pair.WellFormed := by
  intro pair listed
  obtain ⟨operation, listed, made⟩ := exists_derived derived pair listed
  constructor
  · rw [made.logical_eq]
    exact made.length_eq
  · rw [made.logical_eq]
    exact named operation listed

theorem resultConversion_cases (registry : Registry) (context : ConversionContext) (pair : Pair) :
    let types := if pair.boundary.result.isVoid then [] else [pair.logical.result]
    (∃ type, registry.missing? types = some type ∧
      Trampoline.resultConversion registry context pair =
        .error (.unregistered type pair.logical.name)) ∨
    (registry.missing? types = none ∧ ∃ conversion?,
      Trampoline.resultConversion registry context pair = .ok conversion?) := by
  dsimp only
  rw [Trampoline.resultConversion]
  split
  · exact .inr ⟨rfl, none, rfl⟩
  · rcases convert_cases registry pair.logical.result .toBoundary Trampoline.callResult context with
      ⟨absent, none⟩ | ⟨entry, conversion, found, converted⟩
    · rw [none, Registry.missing?_cons_missing absent]
      exact .inl ⟨_, rfl, rfl⟩
    · rw [converted, Registry.missing?_cons_registered found]
      exact .inr ⟨rfl, _, rfl⟩

/-- `trampoline` is what is written for a pair. -/
structure Written (className : String) (pair : Pair) (trampoline : Trampoline) : Prop where
  bodyName_eq : Identifier.ofText (snakeCase pair.boundary.name) = .ok trampoline.bodyName
  symbol_eq : trampoline.symbol = ⟨pair.symbol className, false⟩

theorem ofPair_cases (registry : Registry) (className : String) (operations runtime : Path)
    {pair : Pair} (wellFormed : pair.WellFormed) :
    (∃ halt, pair.writingHalt? registry = some halt ∧
      Trampoline.ofPair registry className operations runtime pair = .error halt) ∨
    (pair.writingHalt? registry = none ∧ ∃ trampoline, Written className pair trampoline ∧
      Trampoline.ofPair registry className operations runtime pair = .ok trampoline) := by
  obtain ⟨length, operation, named⟩ := wellFormed
  have logical : (pair.logical.parameters.zip pair.boundary.parameters).map Prod.fst =
      pair.logical.parameters := List.map_fst_zip (Nat.le_of_eq length.symm)
  have symbol := (isExported_symbolName className pair.boundary.name).identifier
  have parameters := parameters_cases registry ⟨Trampoline.env, runtime⟩ pair.logical.name 0
    (pair.logical.parameters.zip pair.boundary.parameters)
  have result := resultConversion_cases registry ⟨Trampoline.env, runtime⟩ pair
  rw [Pair.writingHalt?, Pair.converted, Registry.missing?_append, Trampoline.ofPair]
  rw [logical] at parameters
  rcases parameters with ⟨type, first, refused⟩ | ⟨none, parameters, listed⟩
  · rw [first, refused]
    exact .inl ⟨_, rfl, rfl⟩
  · rw [none, listed, Option.none_or, Trampoline.identifier, named]
    rcases result with ⟨type, first, refused⟩ | ⟨none, conversion?, converted⟩
    · rw [first, refused]
      exact .inl ⟨_, rfl, rfl⟩
    · rw [none, converted, Trampoline.identifier]
      cases body : Identifier.ofText (snakeCase pair.boundary.name) with
      | error message => exact .inl ⟨_, rfl, rfl⟩
      | ok bodyName =>
        refine .inr ⟨rfl, ?_⟩
        rw [Trampoline.identifier, Pair.symbol, symbol]
        exact ⟨_, ⟨body, rfl⟩, rfl⟩

theorem trampolines_cases (registry : Registry) (className : String) (operations runtime : Path)
    {pairs : List Pair} (wellFormed : ∀ pair ∈ pairs, pair.WellFormed) :
    (∃ halt, pairs.findSome? (·.writingHalt? registry) = some halt ∧
      trampolines registry className operations runtime pairs = .error halt) ∨
    (pairs.findSome? (·.writingHalt? registry) = none ∧
      ∃ written, List.Forall₂ (Written className) pairs written ∧
        trampolines registry className operations runtime pairs = .ok written) := by
  induction pairs with
  | nil => exact .inr ⟨rfl, [], .nil, rfl⟩
  | cons pair rest ih =>
    rw [List.forall_mem_cons] at wellFormed
    rw [trampolines, List.findSome?_cons]
    rcases ofPair_cases registry className operations runtime wellFormed.1 with
      ⟨halt, first, halted⟩ | ⟨none, trampoline, written, made⟩
    · exact .inl ⟨halt, by rw [first], by rw [halted]; rfl⟩
    · rw [none, made]
      rcases ih wellFormed.2 with ⟨halt, first, halted⟩ | ⟨none, all, written', made⟩
      · exact .inl ⟨halt, first, by rw [halted]; rfl⟩
      · exact .inr ⟨none, trampoline :: all, .cons written written', by rw [made]; rfl⟩

theorem render_cases {config : Config} (valid : config.validate tools = .ok ()) (registry : Registry)
    {pairs : List Pair} (wellFormed : ∀ pair ∈ pairs, pair.WellFormed) :
    (∃ halt, pairs.findSome? (·.writingHalt? registry) = some halt ∧
      render tools config registry pairs = .error halt) ∨
    (pairs.findSome? (·.writingHalt? registry) = none ∧
      ∃ written, List.Forall₂ (Written config.className) pairs written ∧
        render tools config registry pairs = .ok (fileText tools config
          (registrationTable config.className pairs :: written.map Trampoline.source))) := by
  obtain ⟨-, operations, runtime, operationsPath, runtimePath⟩ := parts_of_validate valid
  have file : render tools config registry pairs =
      trampolines registry config.className operations runtime pairs >>= fun written =>
        .ok (fileText tools config
          (registrationTable config.className pairs :: written.map Trampoline.source)) := by
    rw [render, operationsPath, runtimePath]
    rfl
  rcases trampolines_cases registry config.className operations runtime wellFormed with
    ⟨halt, first, halted⟩ | ⟨none, written, all, made⟩
  · exact .inl ⟨halt, first, by rw [file, halted]; rfl⟩
  · exact .inr ⟨none, written, all, by rw [file, made]; rfl⟩

theorem render_eq_error_iff {config : Config} (valid : config.validate tools = .ok ())
    {pairs : List Pair} (wellFormed : ∀ pair ∈ pairs, pair.WellFormed) {halt : Halt} :
    render tools config registry pairs = .error halt ↔
      pairs.findSome? (·.writingHalt? registry) = some halt := by
  rcases render_cases valid registry wellFormed with ⟨found, first, halted⟩ | ⟨none, _, -, written⟩
  · rw [first, halted, Except.error.injEq, Option.some.injEq]
  · rw [none, written]
    simp

/-! ### Pairs of the standard registry -/

theorem find?_standard (type : LogicalType) :
    ∃ entry, Registry.standard.find? type = some entry ∧
      (entry.boundary.isVoid = true ↔ type = .unit) := by
  cases type
  all_goals exact ⟨_, rfl, by decide⟩

theorem missing?_standard (types : List LogicalType) : Registry.standard.missing? types = none := by
  rw [Registry.missing?, List.find?_eq_none]
  intro type _
  obtain ⟨entry, found, -⟩ := find?_standard type
  simp [Registry.isRegistered, found]

/-- Every operation has a pair in the standard registry. -/
theorem pairs_standard (start : String) (operations : List Operation) :
    ∃ pairs, List.Forall₂ (Derived .standard start) operations pairs ∧
      Operation.pairs operations start .standard = .ok pairs := by
  rcases pairs_cases .standard start operations with ⟨fault, first, -⟩ | ⟨-, derived⟩
  · obtain ⟨operation, -, refused⟩ := List.exists_of_findSome?_eq_some first
    rw [Operation.derivationFault?, missing?_standard] at refused
    contradiction
  · exact derived

theorem Derived.isVoid_iff {start : String} {operation : Operation} {pair : Pair}
    (derived : Derived .standard start operation pair) :
    pair.boundary.result.isVoid = true ↔ operation.result = .unit := by
  obtain ⟨entry, found, void⟩ := find?_standard operation.result
  have result := derived.result_eq
  rw [found, Option.map_some, Option.some.injEq] at result
  rw [← result, void]

/-- The two checks of one operation agree unless the registry is without the type of a void
result. -/
theorem Derived.writingHalt?_eq {start : String} {operation : Operation} {pair : Pair}
    (derived : Derived .standard start operation pair)
    (unit : operation.result = .unit → registry.isRegistered .unit = true)
    (body : ∃ body, Identifier.ofText (snakeCase pair.boundary.name) = .ok body) :
    pair.writingHalt? registry = (operation.derivationFault? registry).map .refused := by
  obtain ⟨bodyName, body⟩ := body
  have converted : registry.missing? pair.converted =
      registry.missing? (operation.parameters ++ [operation.result]) := by
    rw [Pair.converted, derived.logical_eq, Operation.signature, Registry.missing?_append,
      Registry.missing?_append]
    dsimp only
    by_cases void : operation.result = .unit
    · have registered := unit void
      rw [if_pos (derived.isVoid_iff.mpr void), void]
      simp [Registry.missing?, registered]
    · rw [if_neg (mt derived.isVoid_iff.mp void)]
  rw [Pair.writingHalt?, Operation.derivationFault?, converted, body, derived.logical_eq]
  cases registry.missing? (operation.parameters ++ [operation.result]) with
  | none => rfl
  | some type => rfl

/-! ### The two checks -/

/-- Both checks accept, or both refuse the same type of the same operation. -/
inductive SameVerdict : Except Fault (List Pair) → Except Halt String → Prop where
  | accepted (pairs : List Pair) (text : String) : SameVerdict (.ok pairs) (.ok text)
  | refused (type : LogicalType) (operation : String) :
    SameVerdict (.error (.unregistered type operation))
      (.error (.refused (.unregistered type operation)))

theorem findSome?_writingHalt? {start : String} {operations : List Operation} {pairs : List Pair}
    (derived : List.Forall₂ (Derived .standard start) operations pairs)
    (unit : ∀ operation ∈ operations, operation.result = .unit → registry.isRegistered .unit = true)
    (bodies : ∀ pair ∈ pairs, ∃ body, Identifier.ofText (snakeCase pair.boundary.name) = .ok body) :
    pairs.findSome? (·.writingHalt? registry) =
      (operations.findSome? (·.derivationFault? registry)).map .refused := by
  induction derived with
  | nil => rfl
  | cons first _ ih =>
    rw [List.forall_mem_cons] at unit bodies
    rw [List.findSome?_cons, List.findSome?_cons, first.writingHalt?_eq unit.1 bodies.1,
      ih unit.2 bodies.2]
    cases Operation.derivationFault? registry _ with
    | none => rfl
    | some fault => rfl

theorem sameVerdict_of_derived {config : Config} (valid : config.validate tools = .ok ())
    {operations : List Operation} {pairs : List Pair}
    (derived : List.Forall₂ (Derived .standard config.methodStart) operations pairs)
    (named : ∀ operation ∈ operations, ∃ name, Identifier.ofText operation.name = .ok name)
    (unit : ∀ operation ∈ operations, operation.result = .unit → registry.isRegistered .unit = true)
    (bodies : ∀ pair ∈ pairs, ∃ body, Identifier.ofText (snakeCase pair.boundary.name) = .ok body) :
    SameVerdict (Operation.pairs operations config.methodStart registry)
      (render tools config registry pairs) := by
  have same := findSome?_writingHalt? derived unit bodies
  rcases pairs_cases registry config.methodStart operations with
    ⟨fault, first, refused⟩ | ⟨none, others, -, accepted⟩
  · obtain ⟨operation, -, missing⟩ := List.exists_of_findSome?_eq_some first
    obtain ⟨type, -, rfl⟩ := Option.map_eq_some_iff.mp missing
    rw [first] at same
    rw [refused, (render_eq_error_iff valid (wellFormed_of_derived derived named)).mpr same]
    exact .refused type operation.name
  · rw [none] at same
    rcases render_cases valid registry (wellFormed_of_derived derived named) with
      ⟨halt, first, -⟩ | ⟨-, _, -, written⟩
    · rw [first] at same
      contradiction
    · rw [accepted, written]
      exact .accepted _ _

/-- How the check of the writer differs from that of the derivation, in a registry without
some of the standard types. The derivation refuses the first type of the operations that is
missing, and the writer the first that it converts, unless a native method before it has no
body that can be named. So they agree, up to the type and the operation that they refuse, as
long as all bodies have names and the registry has the result type of void methods if any
operation has that. -/
theorem verdicts_agree_but_for_unit {config : Config} (valid : config.validate tools = .ok ())
    {operations : List Operation}
    (named : ∀ operation ∈ operations, ∃ name, Identifier.ofText operation.name = .ok name)
    (removed : List LogicalType) :
    ∃ pairs, Operation.pairs operations config.methodStart .standard = .ok pairs ∧
      let registry := removed.foldl Registry.without .standard
      let derivation := Operation.pairs operations config.methodStart registry
      let writing := render tools config registry pairs
      (∀ fault, derivation = .error fault ↔
        operations.findSome? (·.derivationFault? registry) = some fault) ∧
      (∀ halt, writing = .error halt ↔
        pairs.findSome? (·.writingHalt? registry) = some halt) ∧
      ((∀ pair ∈ pairs, ∃ body, Identifier.ofText (snakeCase pair.boundary.name) = .ok body) →
        (.unit ∈ removed → ∀ operation ∈ operations, operation.result ≠ .unit) →
        SameVerdict derivation writing) := by
  obtain ⟨pairs, derived, made⟩ := pairs_standard config.methodStart operations
  have wellFormed := wellFormed_of_derived derived named
  refine ⟨pairs, made, fun fault => pairs_eq_error_iff,
    fun halt => render_eq_error_iff valid wellFormed, fun bodies unit => ?_⟩
  have registered : ∀ operation ∈ operations, operation.result = .unit →
      (removed.foldl Registry.without .standard).isRegistered .unit = true := by
    intro operation listed void
    rw [Registry.isRegistered, Registry.find?_foldl_without, if_neg]
    · rfl
    · exact fun absent => unit absent operation listed void
  exact sameVerdict_of_derived valid derived named registered bodies

theorem validate_standard : Config.standard.validate .plain = .ok () := by
  decide +kernel

/-- Without nullable byte arrays both checks pass over a void operation and refuse the one
that returns a blob. -/
theorem verdicts_agree_but_for_unit_blob :
    let operations : List Operation :=
      [⟨"close", [.database], .unit, true⟩,
        ⟨"column_blob", [.statement, .int], .nullableByteArray, true⟩]
    let registry := [LogicalType.nullableByteArray].foldl Registry.without .standard
    let fault : Fault := .unregistered .nullableByteArray "column_blob"
    Operation.pairs operations "native" registry = .error fault ∧
      ∃ pairs, Operation.pairs operations "native" .standard = .ok pairs ∧
        render .plain .standard registry pairs = .error (.refused fault) := by
  intro operations registry fault
  have named : ∀ operation ∈ operations, ∃ name, Identifier.ofText operation.name = .ok name := by
    intro operation listed
    have shaped : isOperationName true operation.name.toList = true := by
      revert operation
      decide +kernel
    exact ⟨_, ofText_operationName shaped⟩
  have derived : Operation.pairs operations "native" .standard = .ok
      [⟨⟨"close", [.database], .unit⟩, ⟨"nativeClose", [.long], .void⟩, "(J)V", true⟩,
        ⟨⟨"column_blob", [.statement, .int], .nullableByteArray⟩,
          ⟨"nativeColumnBlob", [.long, .int], .byteArray⟩, "(JI)[B", true⟩] := by decide +kernel
  obtain ⟨pairs, made, derivation, writing, -⟩ :=
    verdicts_agree_but_for_unit validate_standard named [.nullableByteArray]
  refine ⟨(derivation fault).mpr (by decide +kernel), pairs, made, (writing _).mpr ?_⟩
  cases derived.symm.trans made
  decide +kernel

/-- Without the type of void results the derivation refuses an operation, and the writer
writes its trampoline. -/
theorem void_result_unchecked :
    let operations : List Operation := [⟨"close", [.database], .unit, true⟩]
    let pair : Pair :=
      ⟨⟨"close", [.database], .unit⟩, ⟨"nativeClose", [.long], .void⟩, "(J)V", true⟩
    let registry := Registry.standard.without .unit
    Config.standard.validate .plain = .ok () ∧
      Operation.pairs operations "native" .standard = .ok [pair] ∧
      Operation.pairs operations "native" registry = .error (.unregistered .unit "close") ∧
      (render .plain .standard registry [pair]).isOk = true := by
  decide +kernel

end SqliteBridge.Binding
