import SqliteBridge.Proofs.Binding.Headers

/-! Every name in a generated file is one that the compiler takes. A generation run makes
identifiers from the names of operations, methods and symbols, from positions and from other
identifiers; under a valid configuration none of them is refused or reserved. So a run ends
with a file exactly when its configuration is valid, and otherwise with the fault of the
configuration. -/
namespace SqliteBridge.Binding

/-- A name that can stand in source as it is: it is spelled like an identifier, and it is no
reserved word. -/
structure Identifier.IsLegal (identifier : Identifier) : Prop where
  accepted : Identifier.ofText identifier.name = .ok identifier
  unreserved : identifier.name ∉ Path.keywords

/-- The names that a trampoline is written with: those of its functions, of the operation, and
of everything that its functions bind. -/
def Trampoline.names (trampoline : Trampoline) : List Identifier :=
  [trampoline.symbol, trampoline.bodyName, trampoline.operation, Trampoline.env,
    Trampoline.callResult]
    ++ trampoline.parameters.flatMap (fun parameter => [parameter.name, parameter.conversion.bound])
    ++ trampoline.resultConversion?.toList.map Conversion.bound

/-! ### Names of lower case words, digits and underscores -/

section Spelling

variable {name : String} {first : Char} {rest : List Char}

theorem isLegal_of_lower (spelled : name.toList = first :: rest)
    (lower : Config.isAsciiLower first = true)
    (ascii : ∀ c ∈ rest, isAsciiAlphanumeric c = true ∨ c = '_')
    (unreserved : name ∉ Path.keywords) : (⟨name, false⟩ : Identifier).IsLegal := by
  have capital := hasCapital_of_lower lower
  refine ⟨ofText_ascii spelled (startsIdentifier_of_lower lower) capital.notDigit ?_, unreserved⟩
  rw [spelled, List.forall_mem_cons]
  exact ⟨.inl capital.alphanumeric, ascii⟩

/-- The only reserved word with an underscore is the underscore itself. -/
theorem unreserved_of_underscore (spelled : name.toList = first :: rest)
    (underscore : '_' ∈ rest) : name ∉ Path.keywords := by
  have words : ∀ word ∈ Path.keywords, '_' ∉ word.toList.tail := by decide +kernel
  intro reserved
  have plain := words name reserved
  rw [spelled] at plain
  exact plain underscore

theorem unreserved_of_digits (spelled : name.toList = 'p' :: rest)
    (digits : ∀ c ∈ rest, c.isDigit = true) : name ∉ Path.keywords := by
  have words : ∀ word ∈ Path.keywords, word.toList.head? = some 'p' →
      word.toList.tail.all Char.isDigit = false := by decide +kernel
  intro reserved
  have other := words name reserved (by rw [spelled]; rfl)
  rw [spelled, List.tail_cons, List.all_eq_true.mpr digits] at other
  contradiction

end Spelling

/-! ### Parameters and locals -/

theorem isDigit_repr (n : Nat) : ∀ c ∈ (toString n).toList, c.isDigit = true := by
  intro c listed
  rw [Nat.toString_eq_repr, Nat.toList_repr] at listed
  exact Nat.isDigit_of_mem_toDigits (by decide) (by decide) listed

theorem toList_nameAt (position : Nat) :
    (Parameter.nameAt position).name.toList = 'p' :: (toString position).toList := by
  change ("p" ++ toString position).toList = _
  rw [String.toList_append]
  rfl

theorem ascii_nameAt (position : Nat) :
    ∀ c ∈ (Parameter.nameAt position).name.toList, isAsciiAlphanumeric c = true ∨ c = '_' := by
  rw [toList_nameAt, List.forall_mem_cons]
  exact ⟨.inl (by decide), fun c listed => .inl (plain_of_digit (isDigit_repr position c listed)).2⟩

theorem isLegal_nameAt (position : Nat) : (Parameter.nameAt position).IsLegal := by
  have spelled := toList_nameAt position
  have ascii := ascii_nameAt position
  rw [spelled, List.forall_mem_cons] at ascii
  exact isLegal_of_lower spelled (by decide) ascii.2
    (unreserved_of_digits spelled (isDigit_repr position))

theorem isLegal_localName {value : Identifier}
    (ascii : ∀ c ∈ value.name.toList, isAsciiAlphanumeric c = true ∨ c = '_') :
    (Registry.localName value).IsLegal := by
  have spelled : (Registry.localName value).name.toList =
      'l' :: ("ocal_".toList ++ value.name.toList) := by
    rw [Registry.localName, String.toList_append]
    rfl
  refine isLegal_of_lower spelled (by decide) ?_ (unreserved_of_underscore spelled ?_)
  · rw [List.forall_mem_append]
    exact ⟨fun _ => ascii_of_all (by decide), ascii⟩
  · exact List.mem_append_left _ (by decide)

theorem isLegal_env : Trampoline.env.IsLegal := ⟨by decide +kernel, by decide +kernel⟩

theorem isLegal_callResult : Trampoline.callResult.IsLegal :=
  ⟨by decide +kernel, by decide +kernel⟩

/-- A conversion binds a local named after its value, or nothing new. -/
theorem bound_of_convert {type : LogicalType} {direction : Direction} {value : Identifier}
    {context : ConversionContext} {registry : Registry} {conversion : Conversion}
    (converted : registry.convert type direction value context = some conversion) :
    conversion.bound = value ∨ conversion.bound = Registry.localName value := by
  rw [Registry.convert] at converted
  split at converted
  · contradiction
  · split at converted
    · cases Option.some.inj converted
      exact .inr rfl
    · cases Option.some.inj converted
      exact .inl rfl

theorem isLegal_bound {type : LogicalType} {direction : Direction} {value : Identifier}
    {context : ConversionContext} {registry : Registry} {conversion : Conversion}
    (legal : value.IsLegal)
    (ascii : ∀ c ∈ value.name.toList, isAsciiAlphanumeric c = true ∨ c = '_')
    (converted : registry.convert type direction value context = some conversion) :
    conversion.bound.IsLegal := by
  rcases bound_of_convert converted with same | bound
  · exact same ▸ legal
  · exact bound ▸ isLegal_localName ascii

/-- What the parameter of a type at a position is made of. -/
structure ParameterAt (registry : Registry) (context : ConversionContext)
    (typed : (LogicalType × BoundaryType) × Nat) (parameter : Parameter) : Prop where
  name_eq : parameter.name = Parameter.nameAt typed.2
  boundary_eq : parameter.boundary = typed.1.2
  converted : registry.convert typed.1.1 .fromBoundary (Parameter.nameAt typed.2) context =
    some parameter.conversion
  byReference_eq : parameter.byReference = (registry.find? typed.1.1).any TypeEntry.byReference

theorem parameters_at {registry : Registry} {context : ConversionContext} {operation : String}
    {position : Nat} {typed : List (LogicalType × BoundaryType)} {parameters : List Parameter}
    (listed : Parameter.list registry context operation position typed = .ok parameters) :
    List.Forall₂ (ParameterAt registry context) (typed.zipIdx position) parameters := by
  induction typed generalizing position parameters with
  | nil =>
    cases Except.ok.inj listed
    exact .nil
  | cons first rest ih =>
    obtain ⟨logical, boundary⟩ := first
    rw [Parameter.list] at listed
    split at listed
    · rename_i entry conversion found converted
      cases more : Parameter.list registry context operation (position + 1) rest with
      | error fault =>
        rw [more] at listed
        contradiction
      | ok others =>
        rw [more] at listed
        cases Except.ok.inj listed
        exact .cons ⟨rfl, rfl, converted, by rw [found]; rfl⟩ (ih more)
    · contradiction

theorem isLegal_parameters {registry : Registry} {context : ConversionContext} {operation : String}
    {position : Nat} {typed : List (LogicalType × BoundaryType)} {parameters : List Parameter}
    (listed : Parameter.list registry context operation position typed = .ok parameters) :
    ∀ parameter ∈ parameters, parameter.name.IsLegal ∧ parameter.conversion.bound.IsLegal := by
  intro parameter named
  obtain ⟨typed, -, made⟩ := exists_of_forall₂ (parameters_at listed) parameter named
  have legal := isLegal_nameAt typed.2
  rw [made.name_eq]
  exact ⟨legal, isLegal_bound legal (ascii_nameAt typed.2) made.converted⟩

/-! ### Functions -/

/-- No operation of the catalog is called by a reserved word. -/
theorem unreserved_catalog : ∀ operation ∈ Operation.catalog, operation.name ∉ Path.keywords := by
  decide +kernel

theorem isOperationName_catalog :
    ∀ operation ∈ Operation.catalog, isOperationName true operation.name.toList = true := by
  decide +kernel

/-- A body is called like an operation, or its name has the underscore that ends the start. -/
theorem unreserved_bodyName {start : String} {operation : Operation}
    (valid : Config.isMethodStart start.toList = true) (listed : operation ∈ Operation.catalog) :
    snakeCase (methodName start operation.name) ∉ Path.keywords := by
  have named := isOperationName_catalog operation listed
  have body := toList_snakeCase_methodName valid named
  cases spelled : start.toList with
  | nil =>
    rw [if_pos spelled] at body
    rw [String.toList_inj.mp body]
    exact unreserved_catalog operation listed
  | cons first rest =>
    rw [spelled] at valid body
    rw [Config.isMethodStart, Bool.and_eq_true] at valid
    rw [if_neg (List.cons_ne_nil _ _), snakeChars_plain (hasCapital_of_lower valid.1).plain,
      List.cons_append] at body
    exact unreserved_of_underscore body (List.mem_append_right _ List.mem_cons_self)

/-! ### Trampolines -/

/-- What a trampoline takes from its pair. -/
structure TakenFrom (registry : Registry) (className : String) (runtime : Path) (pair : Pair)
    (trampoline : Trampoline) : Prop where
  parameters_eq : Parameter.list registry ⟨Trampoline.env, runtime⟩ pair.logical.name 0
    (pair.logical.parameters.zip pair.boundary.parameters) = .ok trampoline.parameters
  operation_eq : Identifier.ofText pair.logical.name = .ok trampoline.operation
  result_eq : Trampoline.resultConversion registry ⟨Trampoline.env, runtime⟩ pair =
    .ok trampoline.resultConversion?
  bodyName_eq : Identifier.ofText (snakeCase pair.boundary.name) = .ok trampoline.bodyName
  symbol_eq : Identifier.ofText (pair.symbol className) = .ok trampoline.symbol
  runtime_eq : trampoline.runtime = runtime
  fallible_eq : trampoline.fallible = pair.fallible
  returned_eq : trampoline.result = pair.boundary.result

section Trampolines

variable {registry : Registry} {className : String} {operations runtime : Path} {pair : Pair}
  {trampoline : Trampoline}

theorem identifier_eq_ok {text : String} {identifier : Identifier}
    (accepted : Trampoline.identifier text = .ok identifier) :
    Identifier.ofText text = .ok identifier := by
  rw [Trampoline.identifier] at accepted
  split at accepted
  · rename_i found
    rw [found, Except.ok.inj accepted]
  · contradiction

theorem takenFrom_of_ofPair
    (made : Trampoline.ofPair registry className operations runtime pair = .ok trampoline) :
    TakenFrom registry className runtime pair trampoline := by
  obtain ⟨parameters, listed, made⟩ := exists_of_bind_eq_ok made
  obtain ⟨operation, named, made⟩ := exists_of_bind_eq_ok made
  obtain ⟨conversion?, converted, made⟩ := exists_of_bind_eq_ok made
  obtain ⟨bodyName, body, made⟩ := exists_of_bind_eq_ok made
  obtain ⟨symbol, exported, made⟩ := exists_of_bind_eq_ok made
  cases Except.ok.inj made
  exact ⟨refuse_eq_ok listed, identifier_eq_ok named, refuse_eq_ok converted,
    identifier_eq_ok body, identifier_eq_ok exported, rfl, rfl, rfl⟩

theorem isLegal_resultBound (taken : TakenFrom registry className runtime pair trampoline) :
    ∀ bound ∈ trampoline.resultConversion?.toList.map Conversion.bound, bound.IsLegal := by
  rw [List.forall_mem_map]
  intro conversion made
  have converted := taken.result_eq
  rw [Option.mem_toList.mp made, Trampoline.resultConversion] at converted
  split at converted
  · cases converted
  · split at converted
    · rename_i found
      cases Option.some.inj (Except.ok.inj converted)
      exact isLegal_bound isLegal_callResult (fun _ => ascii_of_all (by decide +kernel)) found
    · contradiction

/-- The names of a trampoline are legal as soon as those that its pair brings along are. -/
theorem isLegal_names (taken : TakenFrom registry className runtime pair trampoline)
    (operation : (⟨pair.logical.name, false⟩ : Identifier).IsLegal)
    (body : (⟨snakeCase pair.boundary.name, false⟩ : Identifier).IsLegal) :
    ∀ name ∈ trampoline.names, name.IsLegal := by
  have exported := isExported_symbolName className pair.boundary.name
  have symbol_eq := Except.ok.inj (taken.symbol_eq.symm.trans exported.identifier)
  have operation_eq := Except.ok.inj (taken.operation_eq.symm.trans operation.accepted)
  have body_eq := Except.ok.inj (taken.bodyName_eq.symm.trans body.accepted)
  rw [Trampoline.names, symbol_eq, operation_eq, body_eq, List.forall_mem_append,
    List.forall_mem_append]
  refine ⟨⟨?_, ?_⟩, isLegal_resultBound taken⟩
  · simp only [List.forall_mem_cons, List.not_mem_nil, false_implies, implies_true, and_true]
    exact ⟨⟨exported.identifier, exported.unreserved⟩, body, operation, isLegal_env,
      isLegal_callResult⟩
  · intro name listed
    obtain ⟨parameter, listed, either⟩ := List.mem_flatMap.mp listed
    obtain ⟨own, bound⟩ := isLegal_parameters taken.parameters_eq parameter listed
    rcases List.mem_pair.mp either with rfl | rfl
    · exact own
    · exact bound

theorem takenFrom_of_trampolines {pairs : List Pair} {written : List Trampoline}
    (made : trampolines registry className operations runtime pairs = .ok written) :
    List.Forall₂ (TakenFrom registry className runtime) pairs written := by
  induction pairs generalizing written with
  | nil =>
    cases Except.ok.inj made
    exact .nil
  | cons pair rest ih =>
    obtain ⟨first, opened, made⟩ := exists_of_bind_eq_ok made
    obtain ⟨others, continued, made⟩ := exists_of_bind_eq_ok made
    cases Except.ok.inj made
    exact .cons (takenFrom_of_ofPair opened) (ih continued)

end Trampolines

/-! ### The catalog -/

/-- The trampolines of the whole catalog, all of whose names are legal. -/
structure Catalogued (config : Config) (operations runtime : Path) (pairs : List Pair)
    (written : List Trampoline) : Prop where
  pairs_eq : Operation.pairs Operation.catalog config.methodStart .standard = .ok pairs
  written_eq : trampolines .standard config.className operations runtime pairs = .ok written
  length_eq : written.length = Operation.catalog.length
  names_legal : ∀ trampoline ∈ written, ∀ name ∈ trampoline.names, name.IsLegal

section Catalog

variable {config : Config} (valid : Config.isMethodStart config.methodStart.toList = true)
  {pairs : List Pair}
  (derived : List.Forall₂ (Derived .standard config.methodStart) Operation.catalog pairs)

include valid derived

theorem isLegal_pair : ∀ pair ∈ pairs, (⟨pair.logical.name, false⟩ : Identifier).IsLegal ∧
    (⟨snakeCase pair.boundary.name, false⟩ : Identifier).IsLegal := by
  intro pair listed
  obtain ⟨operation, listed, made⟩ := exists_derived derived pair listed
  have named := isOperationName_catalog operation listed
  rw [made.logical_eq, made.name_eq]
  exact ⟨⟨ofText_operationName named, unreserved_catalog operation listed⟩,
    ofText_bodyName valid named, unreserved_bodyName valid listed⟩

theorem writingHalt?_catalog : pairs.findSome? (·.writingHalt? .standard) = none := by
  rw [List.findSome?_eq_none_iff]
  intro pair listed
  rw [Pair.writingHalt?, missing?_standard, (isLegal_pair valid derived pair listed).2.accepted]

end Catalog

/-- Whatever the paths are, a start of method names is enough for the trampolines of the whole
catalog. -/
theorem exists_catalogued {config : Config}
    (valid : Config.isMethodStart config.methodStart.toList = true) (operations runtime : Path) :
    ∃ pairs written, Catalogued config operations runtime pairs written := by
  obtain ⟨pairs, derived, made⟩ := pairs_standard config.methodStart Operation.catalog
  have wellFormed := wellFormed_of_derived derived fun operation listed =>
    ⟨_, ofText_operationName (isOperationName_catalog operation listed)⟩
  rcases trampolines_cases .standard config.className operations runtime wellFormed with
    ⟨halt, first, -⟩ | ⟨-, written, all, written_eq⟩
  · rw [writingHalt?_catalog valid derived] at first
    contradiction
  · refine ⟨pairs, written, made, written_eq, all.length_eq.symm.trans derived.length_eq.symm, ?_⟩
    intro trampoline listed
    obtain ⟨pair, paired, taken⟩ :=
      exists_of_forall₂ (takenFrom_of_trampolines written_eq) trampoline listed
    have legal := isLegal_pair valid derived pair paired
    exact isLegal_names taken legal.1 legal.2

variable {tools : Toolkit}

theorem generate_of_refused {config : Config} {fault : Fault}
    (refused : config.validate tools = .error fault) :
    generate tools config = .error (.refused fault) := by
  rw [generate, refused]
  rfl

theorem generate_of_valid {config : Config} (valid : config.validate tools = .ok ()) :
    ∃ operations runtime pairs written, config.operations tools = .ok operations ∧
      config.runtime tools = .ok runtime ∧ Catalogued config operations runtime pairs written ∧
      generate tools config = .ok (fileText tools config
        (registrationTable config.className pairs :: written.map Trampoline.source)) := by
  obtain ⟨start, operations, runtime, operationsPath, runtimePath⟩ := parts_of_validate valid
  obtain ⟨pairs, written, catalogued⟩ := exists_catalogued start operations runtime
  refine ⟨operations, runtime, pairs, written, operationsPath, runtimePath, catalogued, ?_⟩
  rw [generate, valid, catalogued.pairs_eq]
  change render tools config .standard pairs = _
  rw [render, operationsPath, runtimePath]
  change trampolines .standard config.className operations runtime pairs >>= _ = _
  rw [catalogued.written_eq]
  rfl

/-- A generation run refuses what the validation of its configuration refuses, with the same
fault, and nothing else; it never aborts. The file of a valid configuration has a trampoline
for each operation of the catalog, and the compiler takes every name in them. For the names the
start of the method names is enough: neither the class nor the paths can spoil one. -/
theorem generate_iff_validate (tools : Toolkit) (config : Config) :
    ((∃ text, generate tools config = .ok text) ↔ config.validate tools = .ok ()) ∧
      (∀ fault, generate tools config = .error (.refused fault) ↔
        config.validate tools = .error fault) ∧
      (∀ message, generate tools config ≠ .error (.aborted message)) ∧
      (∀ text, generate tools config = .ok text → ∃ operations runtime pairs written,
        config.operations tools = .ok operations ∧ config.runtime tools = .ok runtime ∧
          Catalogued config operations runtime pairs written ∧
          IsFile tools config.header?
            (registrationTable config.className pairs :: written.map Trampoline.source) text) ∧
      (Config.isMethodStart config.methodStart.toList = true →
        ∀ operations runtime, ∃ pairs written,
          Catalogued config operations runtime pairs written) := by
  cases checked : config.validate tools with
  | error fault =>
    rw [generate_of_refused checked]
    exact ⟨by simp, by simp, by simp, by simp, exists_catalogued⟩
  | ok checks =>
    obtain ⟨operations, runtime, pairs, written, operationsPath, runtimePath, catalogued, file⟩ :=
      generate_of_valid checked
    rw [file]
    refine ⟨by simp, by simp, by simp, fun text same => ?_, exists_catalogued⟩
    cases Except.ok.inj same
    exact ⟨operations, runtime, pairs, written, operationsPath, runtimePath, catalogued,
      isFile_fileText _ _⟩

/-- A class of signs and digits, and a start that is a reserved word in another case. -/
theorem generate_iff_validate_signs :
    let config : Config := { Config.standard with className := "$/_1", methodStart := "sELF" }
    (∃ text, generate .plain config = .ok text) ∧
      ∀ path, ∃ pairs written, Catalogued config path path pairs written := by
  intro config
  have generated := generate_iff_validate .plain config
  exact ⟨generated.1.mpr (by decide +kernel),
    fun path => generated.2.2.2.2 (by decide +kernel) path path⟩

end SqliteBridge.Binding
