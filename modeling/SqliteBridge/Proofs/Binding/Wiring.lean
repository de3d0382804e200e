import SqliteBridge.Proofs.Binding.Functions
import SqliteBridge.Proofs.Binding.Locals

/-! How a trampoline wires its parameters, read off the source that is written for it. Both of
its functions declare them in order with the types of the descriptor; the body converts each one
that has a conversion, once and in order, and calls the operation on them in order; and the
exported function forwards them in order. No name is bound twice, so none hides another. -/
namespace SqliteBridge.Binding

/-! ### What a pair asks for -/

/-- The parameters for some types, in order. -/
def declarationsOf (spelling : BoundaryType → Source) (types : List BoundaryType) :
    List Declaration :=
  types.zipIdx.map fun (type, position) => ⟨Parameter.nameAt position, spelling type⟩

/-- The argument of the operation for the parameter at a position. -/
def argumentAt (registry : Registry) : LogicalType × Nat → Source
  | (type, position) =>
    (if (registry.find? type).any TypeEntry.byReference then [Source.symbol '&'] else [])
      ++ [.identifier (if registry.hasConversion type .fromBoundary then localAt position
        else Parameter.nameAt position)]

namespace Pair

/-- The positions of the parameters whose types have a conversion. -/
def convertedPositions (pair : Pair) (registry : Registry) : List Nat :=
  (pair.logical.parameters.zipIdx.filter fun (type, _) =>
    registry.hasConversion type .fromBoundary).map Prod.snd

/-- The statement that runs the operation: it binds the result unless there is none. -/
def delegation (pair : Pair) (source : Source) : Statement :=
  if pair.boundary.result.isVoid then .expression source
  else .binding Trampoline.callResult source

end Pair

/-- The statements of a body before the call of the operation, that call, and the statements
after it. -/
structure Delegates (registry : Registry) (pair : Pair) (conversions : List Statement)
    (call : Call) (rest : List Statement) : Prop where
  /-- One statement for each parameter with a conversion, in order. -/
  converts : List.Forall₂ (fun position => Converts (Parameter.nameAt position))
    (pair.convertedPositions registry) conversions
  operation : ∃ operation, Identifier.ofText pair.logical.name = .ok operation ∧
    call.callee.getLast? = some (.identifier operation)
  arguments_eq : call.arguments = pair.logical.parameters.zipIdx.map (argumentAt registry)
  after_eq : call.after = if pair.fallible then [Source.symbol '?'] else []
  /-- Only the result is converted after the call. -/
  rest_eq : ∃ last, last.bound? = none ∧ (rest = [last] ∨
    ∃ conversion, Converts Trampoline.callResult conversion ∧ rest = [conversion, last])

/-- The names that a function declares and binds. -/
def Routine.names (routine : Routine) : List Identifier :=
  (routine.declarations?.getD []).map Declaration.name ++ routine.bound

/-- The functions of a trampoline are wired as a pair asks for. -/
structure Wired (registry : Registry) (pair : Pair) (body exported : Routine) : Prop where
  descriptor_eq : pair.descriptor =
    "(" ++ String.join (pair.boundary.parameters.map BoundaryType.descriptor) ++ ")"
      ++ pair.boundary.result.descriptor
  length_eq : pair.boundary.parameters.length = pair.logical.parameters.length
  declared : body.declarations? = some (⟨Trampoline.env, Source.words ["&", "mut", "B"]⟩
    :: declarationsOf BoundaryType.bodySource pair.boundary.parameters)
  exported_declared : exported.declarations? = some (
    ⟨Trampoline.env, Source.words ["::", "jni", "::", "JNIEnv", "<"] ++ Source.lifetime "local"
      ++ Source.word ">"⟩
    :: ⟨⟨"_clazz", false⟩, Source.words ["::", "jni", "::", "objects", "::", "JClass", "<"]
      ++ Source.lifetime "local" ++ Source.word ">"⟩
    :: declarationsOf BoundaryType.exportedSource pair.boundary.parameters)
  delegates : ∃ conversions source call rest,
    body.statements = conversions ++ pair.delegation source :: rest ∧
      call? source = some call ∧ Delegates registry pair conversions call rest
  forwards : call? exported.block = some ⟨[.identifier body.name],
    Source.words ["&", "mut", "env"]
      :: (List.range pair.boundary.parameters.length).map fun position =>
        [.identifier (Parameter.nameAt position)], []⟩
  bound_once : ∀ typed ∈ pair.logical.parameters.zipIdx, body.bound.count (localAt typed.2) =
    if registry.hasConversion typed.1 .fromBoundary then 1 else 0
  names_nodup : body.names.Nodup
  exported_names_nodup : exported.names.Nodup

/-- A source of a body and an exported function that are wired as a pair asks for. -/
def IsWired (registry : Registry) (pair : Pair) (source : Source) : Prop :=
  ∃ body exported, routines source = [body, exported] ∧ Wired registry pair body exported

/-! ### The statements of a body -/

section Statements

variable {registry : Registry} (spelled : registry.IsSpelled) {className : String}
  {runtime : Path} {pair : Pair} {trampoline : Trampoline}

include spelled

/-- The conversions of parameters are statements of their own, whatever stands after them. -/
theorem conversions_of_parameters {typed : List ((LogicalType × BoundaryType) × Nat)}
    {parameters : List Parameter}
    (made : List.Forall₂ (ParameterAt registry ⟨Trampoline.env, runtime⟩) typed parameters) :
    ∃ conversions, List.Forall₂ (fun position => Converts (Parameter.nameAt position))
        ((typed.filter fun typed => registry.hasConversion typed.1.1 .fromBoundary).map Prod.snd)
        conversions ∧
      ∀ rest, (pieces ';' (outline (parameters.flatMap
          (fun parameter => parameter.conversion.statement) ++ rest))).map statement =
        conversions ++ (pieces ';' (outline rest)).map statement := by
  induction made with
  | nil => exact ⟨[], .nil, fun rest => rfl⟩
  | @cons first parameter typed parameters placed _ ih =>
    obtain ⟨conversions, converts, printed⟩ := ih
    -- A parameter that passes through adds neither a position nor a statement.
    rcases convert_cases_statement spelled placed.converted with
      ⟨passes, none⟩ | ⟨has, -, result, converted, written⟩
    · refine ⟨conversions, ?_, fun rest => ?_⟩
      · rw [List.filter_cons_of_neg (by simp [passes])]
        exact converts
      · rw [List.flatMap_cons, none, List.nil_append, printed]
    · refine ⟨result :: conversions, ?_, fun rest => ?_⟩
      · rw [List.filter_cons_of_pos (by simp [has]), List.map_cons]
        exact .cons converted converts
      · rw [List.flatMap_cons, List.append_assoc, written, printed, List.cons_append]

theorem argument_at {typed : (LogicalType × BoundaryType) × Nat} {parameter : Parameter}
    (made : ParameterAt registry ⟨Trampoline.env, runtime⟩ typed parameter) :
    parameter.argument = argumentAt registry (typed.1.1, typed.2) := by
  have bound : parameter.conversion.bound =
      if registry.hasConversion typed.1.1 .fromBoundary then localAt typed.2
      else Parameter.nameAt typed.2 := by
    rcases convert_cases_statement spelled made.converted with ⟨passes, none⟩ | ⟨has, bound, -⟩
    · rw [passes, none, if_neg Bool.false_ne_true]
    · rw [has, bound, if_pos rfl]
      rfl
  rw [Parameter.argument, argumentAt, bound, made.byReference_eq]
  split <;> rfl

/-- The call and what becomes of its result, as statements. -/
theorem statements_conclusion
    (taken : TakenFrom registry className runtime pair trampoline) :
    ∃ rest, (pieces ';' (outline trampoline.conclusion)).map statement =
        pair.delegation (outline trampoline.call) :: rest ∧
      ∃ last, last.bound? = none ∧ (rest = [last] ∨
        ∃ conversion, Converts Trampoline.callResult conversion ∧ rest = [conversion, last]) := by
  have converted := taken.result_eq
  have clean : lacks ';' (outline trampoline.call) = true :=
    lacks_call trampoline List.mem_cons_self
  have bare : statement (outline trampoline.call) = .expression (outline trampoline.call) :=
    statement_of_lacks (lacks_call trampoline (List.mem_cons_of_mem _ List.mem_cons_self))
  have nested := isNested_call trampoline
  rw [Trampoline.resultConversion] at converted
  rw [Trampoline.conclusion, Pair.delegation]
  split at converted
  · rename_i void
    rw [← Except.ok.inj converted, if_pos void]
    dsimp only
    rw [nested.outline_append, outline_cons rfl rfl,
      pieces_append (isEmpty_call trampoline) clean rfl, List.map_cons, bare]
    exact ⟨_, rfl, _, rfl, .inl rfl⟩
  · rename_i returns
    split at converted
    · rename_i conversion found
      have shape : Source.word "let" ++ .identifier Trampoline.callResult :: Source.symbol '='
          :: trampoline.call ++ Source.symbol ';' :: conversion.statement
            ++ Trampoline.okOf [.identifier conversion.bound] =
          Source.word "let" ++ .identifier Trampoline.callResult :: Source.symbol '='
            :: trampoline.call ++ [Source.symbol ';']
            ++ (conversion.statement ++ Trampoline.okOf [.identifier conversion.bound]) := by
        simp
      rw [← Except.ok.inj converted, if_neg returns]
      dsimp only
      rw [shape, pieces_let _ nested clean]
      refine ⟨_, rfl, ?_⟩
      rcases convert_cases_statement spelled found with
        ⟨-, rfl⟩ | ⟨-, -, result, converts, written⟩
      · exact ⟨_, rfl, .inl rfl⟩
      · rw [written]
        exact ⟨_, rfl, .inr ⟨result, converts, rfl⟩⟩
    · contradiction

end Statements

/-! ### Lists over positions -/

section Positions

variable {logical : List LogicalType} {boundary : List BoundaryType}
  (length : boundary.length = logical.length)

include length

theorem zipIdx_logical : logical.zipIdx =
    (logical.zip boundary).zipIdx.map fun typed => (typed.1.1, typed.2) := by
  have firsts : (logical.zip boundary).map Prod.fst = logical :=
    List.map_fst_zip (Nat.le_of_eq length.symm)
  rw [← firsts, List.zipIdx_map, firsts]
  rfl

theorem zipIdx_boundary : boundary.zipIdx =
    (logical.zip boundary).zipIdx.map fun typed => (typed.1.2, typed.2) := by
  have seconds : (logical.zip boundary).map Prod.snd = boundary :=
    List.map_snd_zip (Nat.le_of_eq length)
  rw [← seconds, List.zipIdx_map, seconds]
  rfl

end Positions

theorem map_eq_of_forall₂ {α β γ : Type} {related : α → β → Prop} {firsts : List α}
    {seconds : List β} (all : List.Forall₂ related firsts seconds) {f : α → γ} {g : β → γ}
    (each : ∀ first second, related first second → g second = f first) :
    seconds.map g = firsts.map f := by
  induction all with
  | nil => rfl
  | cons both _ ih => rw [List.map_cons, List.map_cons, each _ _ both, ih]

theorem map_declarationsOf_name (spelling : BoundaryType → Source) (types : List BoundaryType) :
    (declarationsOf spelling types).map Declaration.name =
      (List.range types.length).map Parameter.nameAt := by
  rw [declarationsOf, List.map_map, List.range_eq_range', ← List.zipIdx_map_snd, List.map_map]
  rfl

theorem filterMap_converts {positions : List Nat} {conversions : List Statement}
    (converts : List.Forall₂ (fun position => Converts (Parameter.nameAt position))
      positions conversions) :
    conversions.filterMap Statement.bound? = positions.map localAt := by
  induction converts with
  | nil => rfl
  | cons first _ ih =>
    obtain ⟨source, rfl, -⟩ := first
    simp [localAt, ih]

/-! ### The wiring -/

/-- What the derivation of a pair ensures. -/
structure Pair.IsRegistered (registry : Registry) (pair : Pair) : Prop where
  length_eq : pair.boundary.parameters.length = pair.logical.parameters.length
  missing_eq : registry.missing? (pair.logical.parameters ++ [pair.logical.result]) = none
  descriptor_eq : pair.descriptor = methodDescriptor pair.boundary.parameters pair.boundary.result

theorem isRegistered_of_derive {registry : Registry} {signature : Signature LogicalType}
    {method : String} {fallible : Bool} {pair : Pair}
    (made : Pair.derive registry signature method fallible = .ok pair) :
    pair.IsRegistered registry := by
  rw [Pair.derive] at made
  rcases boundaryTypes_cases registry signature.name signature.parameters with
    ⟨type, -, refused⟩ | ⟨none, boundaries, length, derived⟩
  · rw [refused] at made
    contradiction
  · rcases boundaryType_cases registry signature.name signature.result with
      ⟨absent, refused⟩ | ⟨entry, found, mapped⟩
    · rw [derived, refused] at made
      contradiction
    · rw [derived, mapped] at made
      cases Except.ok.inj made
      refine ⟨length, ?_, rfl⟩
      rw [Registry.missing?_append, none, Option.none_or, Registry.missing?_cons_registered found]
      rfl

section Converted

variable {registry : Registry} {pair : Pair}

theorem mem_convertedPositions {position : Nat} :
    position ∈ pair.convertedPositions registry ↔ ∃ type,
      (type, position) ∈ pair.logical.parameters.zipIdx ∧
        registry.hasConversion type .fromBoundary = true := by
  rw [Pair.convertedPositions, List.mem_map]
  constructor
  · rintro ⟨⟨type, _⟩, listed, rfl⟩
    exact ⟨type, List.mem_filter.mp listed⟩
  · rintro ⟨type, listed⟩
    exact ⟨(type, position), List.mem_filter.mpr listed, rfl⟩

theorem convertedPositions_sublist (registered : pair.IsRegistered registry) :
    (pair.convertedPositions registry).Sublist
      (List.range pair.boundary.parameters.length) := by
  have all : pair.logical.parameters.zipIdx.map Prod.snd =
      List.range pair.boundary.parameters.length := by
    rw [List.zipIdx_map_snd, registered.length_eq, List.range_eq_range']
  rw [← all, Pair.convertedPositions]
  exact List.filter_sublist.map Prod.snd

end Converted

section Wiring

variable {registry : Registry} (spelled : registry.IsSpelled) {className : String}
  {runtime : Path} {pair : Pair} {trampoline : Trampoline} (registered : pair.IsRegistered registry)
  (taken : TakenFrom registry className runtime pair trampoline)

include registered taken

theorem declarations_of_pair (spelling : BoundaryType → Source) :
    (trampoline.parameters.map fun parameter =>
        (⟨parameter.name, spelling parameter.boundary⟩ : Declaration)) =
      declarationsOf spelling pair.boundary.parameters := by
  have placed := parameters_at taken.parameters_eq
  rw [declarationsOf, zipIdx_boundary registered.length_eq, List.map_map]
  apply map_eq_of_forall₂ placed
  intro typed parameter made
  rw [made.name_eq, made.boundary_eq]
  rfl

theorem forwarded_of_pair :
    (trampoline.parameters.map fun parameter => [Tree.identifier parameter.name]) =
      (List.range pair.boundary.parameters.length).map fun position =>
        [.identifier (Parameter.nameAt position)] := by
  have placed := parameters_at taken.parameters_eq
  rw [List.range_eq_range', ← List.zipIdx_map_snd, zipIdx_boundary registered.length_eq,
    List.map_map, List.map_map]
  apply map_eq_of_forall₂ placed
  intro typed parameter made
  rw [made.name_eq]
  rfl

include spelled

theorem arguments_of_pair : trampoline.parameters.map Parameter.argument =
    pair.logical.parameters.zipIdx.map (argumentAt registry) := by
  have placed := parameters_at taken.parameters_eq
  rw [zipIdx_logical registered.length_eq, List.map_map]
  apply map_eq_of_forall₂ placed
  intro typed parameter made
  exact argument_at spelled made

theorem statements_of_pair : ∃ conversions rest,
    (bodyRoutine trampoline).statements =
        conversions ++ pair.delegation (outline trampoline.call) :: rest ∧
      Delegates registry pair conversions ⟨calleeOf trampoline,
        trampoline.parameters.map Parameter.argument, afterCall trampoline⟩ rest := by
  obtain ⟨conversions, converts, printed⟩ :=
    conversions_of_parameters spelled (parameters_at taken.parameters_eq)
  obtain ⟨rest, concluded, rest_eq⟩ := statements_conclusion spelled taken
  refine ⟨conversions, rest, ?_, ?_⟩
  · rw [Routine.statements, closure?_body, Option.getD_some, Trampoline.block, printed, concluded]
  · have positions : pair.convertedPositions registry =
        ((pair.logical.parameters.zip pair.boundary.parameters).zipIdx.filter fun typed =>
          registry.hasConversion typed.1.1 .fromBoundary).map Prod.snd := by
      rw [Pair.convertedPositions, zipIdx_logical registered.length_eq, List.filter_map,
        List.map_map]
      rfl
    refine ⟨?_, ⟨trampoline.operation, taken.operation_eq, ?_⟩, ?_, ?_, rest_eq⟩
    · rw [positions]
      exact converts
    · rw [calleeOf, List.getLast?_concat]
    · exact arguments_of_pair spelled registered taken
    · rw [afterCall, taken.fallible_eq]

/-- The names that a body binds are locals of converted parameters and names of the result. -/
theorem bound_of_pair : ∃ results, results.Sublist resultNames ∧
    (bodyRoutine trampoline).bound =
      (pair.convertedPositions registry).map localAt ++ results := by
  obtain ⟨conversions, rest, statements, delegates⟩ := statements_of_pair spelled registered taken
  have called : ((pair.delegation (outline trampoline.call)).bound?.toList).Sublist
      [Trampoline.callResult] := by
    rw [Pair.delegation]
    split
    · exact List.nil_sublist _
    · exact List.Sublist.refl _
  have converted : (rest.filterMap Statement.bound?).Sublist
      [Registry.localName Trampoline.callResult] := by
    obtain ⟨last, unbound, rfl | ⟨_, ⟨source, rfl, -⟩, rfl⟩⟩ := delegates.rest_eq
    · simp [unbound]
    · simp [unbound]
  refine ⟨_, called.append converted, ?_⟩
  rw [Routine.bound, statements, List.filterMap_append, filterMap_converts delegates.converts]
  cases delegated : (pair.delegation (outline trampoline.call)).bound? with
  | none => rw [List.filterMap_cons_none delegated]; rfl
  | some name => rw [List.filterMap_cons_some delegated]; rfl

/-- So the names that a body declares and binds are some of those that a trampoline can bind. -/
theorem names_sublist_of_pair : (bodyRoutine trampoline).names.Sublist
    (localNames pair.boundary.parameters.length) := by
  obtain ⟨results, some, bound⟩ := bound_of_pair spelled registered taken
  have converted := (convertedPositions_sublist registered).map localAt
  rw [Routine.names, declarations?_body, declarations_of_pair registered taken, bound,
    Option.getD_some, List.map_cons, map_declarationsOf_name, localNames]
  exact (List.Sublist.refl _).append (converted.append some)

omit spelled in
theorem exported_names_of_pair : (exportedRoutine trampoline).names =
    Trampoline.env :: ⟨"_clazz", false⟩
      :: (List.range pair.boundary.parameters.length).map Parameter.nameAt := by
  have bound : (exportedRoutine trampoline).bound = [] := by
    rw [Routine.bound, Routine.statements, closure?_exported]
    rfl
  rw [Routine.names, declarations?_exported, declarations_of_pair registered taken, bound,
    Option.getD_some, List.map_cons, List.map_cons, map_declarationsOf_name, List.append_nil]

theorem bound_once_of_pair : ∀ typed ∈ pair.logical.parameters.zipIdx,
    (bodyRoutine trampoline).bound.count (localAt typed.2) =
      if registry.hasConversion typed.1 .fromBoundary then 1 else 0 := by
  rintro ⟨type, position⟩ listed
  obtain ⟨results, some, bound⟩ := bound_of_pair spelled registered taken
  have nodup : (bodyRoutine trampoline).bound.Nodup :=
    ((names_sublist_of_pair spelled registered taken).nodup (nodup_localNames _)).of_append_right
  dsimp only
  split
  · rename_i has
    apply List.count_eq_one_of_mem nodup
    rw [bound]
    exact List.mem_append_left _
      (List.mem_map_of_mem (mem_convertedPositions.mpr ⟨type, listed, has⟩))
  · rename_i passes
    apply List.count_eq_zero_of_not_mem
    rw [bound, List.mem_append, not_or]
    constructor
    · rw [List.mem_map]
      rintro ⟨other, converted, same⟩
      -- The position is that of a converted type, but there is one type at it, which passes.
      obtain ⟨otherType, listed', has⟩ := mem_convertedPositions.mp converted
      rw [localAt_injective same, List.mem_zipIdx_iff_getElem?] at listed'
      rw [List.mem_zipIdx_iff_getElem?] at listed
      cases listed.symm.trans listed'
      exact passes has
    · intro result
      exact localAt_notMem_resultNames position (some.subset result)

theorem wired_of_pair :
    Wired registry pair (bodyRoutine trampoline) (exportedRoutine trampoline) := by
  obtain ⟨conversions, rest, statements, delegates⟩ := statements_of_pair spelled registered taken
  constructor
  · exact registered.descriptor_eq
  · exact registered.length_eq
  · rw [declarations?_body, declarations_of_pair registered taken]
  · rw [declarations?_exported, declarations_of_pair registered taken]
  · exact ⟨conversions, _, _, rest, statements, call?_call trampoline, delegates⟩
  · rw [← forwarded_of_pair registered taken]
    exact call?_exportedBlock trampoline
  · exact bound_once_of_pair spelled registered taken
  · exact (names_sublist_of_pair spelled registered taken).nodup (nodup_localNames _)
  · rw [exported_names_of_pair registered taken]
    exact nodup_exportedNames _

end Wiring

theorem isWired_of_trampolines {registry : Registry} (spelled : registry.IsSpelled)
    {className : String} {runtime : Path} {pairs : List Pair} {written : List Trampoline}
    (registered : ∀ pair ∈ pairs, pair.IsRegistered registry)
    (taken : List.Forall₂ (TakenFrom registry className runtime) pairs written) :
    List.Forall₂ (IsWired registry) pairs (written.map Trampoline.source) := by
  induction taken with
  | nil => exact .nil
  | cons first _ ih =>
    rw [List.forall_mem_cons] at registered
    exact .cons ⟨_, _, routines_source _, wired_of_pair spelled registered.1 first⟩
      (ih registered.2)

theorem exists_render {tools : Toolkit} {config : Config}
    (valid : config.validate tools = .ok ()) {registry : Registry} {pairs : List Pair} (registered : ∀ pair ∈ pairs, pair.IsRegistered registry)
    (named : ∀ pair ∈ pairs, (∃ operation, Identifier.ofText pair.logical.name = .ok operation) ∧
      ∃ body, Identifier.ofText (snakeCase pair.boundary.name) = .ok body) :
    ∃ text, render tools config registry pairs = .ok text := by
  have wellFormed : ∀ pair ∈ pairs, pair.WellFormed := fun pair listed =>
    ⟨(registered pair listed).length_eq, (named pair listed).1⟩
  have written : pairs.findSome? (·.writingHalt? registry) = none := by
    rw [List.findSome?_eq_none_iff]
    intro pair listed
    obtain ⟨body, accepted⟩ := (named pair listed).2
    rw [Pair.writingHalt?, Pair.missing?_converted (registered pair listed).missing_eq, accepted]
  rcases render_cases valid registry wellFormed with ⟨halt, first, -⟩ | ⟨-, _, -, rendered⟩
  · rw [written] at first
    contradiction
  · exact ⟨_, rendered⟩

end SqliteBridge.Binding
