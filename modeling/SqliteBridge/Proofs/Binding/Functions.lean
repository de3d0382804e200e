import SqliteBridge.Proofs.Binding.Reading

/-! The functions of a trampoline, as the reader finds them: a body and an exported function,
with the parameters, the block and the calls that the trampoline was printed from. -/
namespace SqliteBridge.Binding

section Functions

variable (trampoline : Trampoline)

def bodyRoutine : Routine :=
  ⟨trampoline.bodyName, pieces ',' trampoline.bodyParameters, bodyBlock trampoline⟩

def exportedRoutine : Routine :=
  ⟨trampoline.symbol, pieces ',' trampoline.exportedParameters, exportedBlock trampoline⟩

variable {trampoline}

/-- One function at the front of a source. -/
theorem routines_append (opening : Source) {header : Source} {call : Call}
    (plain : opening.all (fun tree => !tree.isWord "fn") = true)
    (flatOpening : hasNoBlock opening = true) (flat : hasNoBlock header = true)
    (read : call? header = some call) (name : Identifier) (block rest : Source) :
    routinesFrom [] (opening ++ Source.name "fn" :: .identifier name
        :: (header ++ Source.braced block :: rest)) =
      ⟨name, call.arguments, block⟩ :: routinesFrom [] rest := by
  have before : hasNoBlock (opening ++ Source.name "fn" :: .identifier name :: header) = true := by
    rw [hasNoBlock_append, hasNoBlock_cons, hasNoBlock_cons, flatOpening, flat]
    rfl
  have routine : routine? (opening ++ Source.name "fn" :: .identifier name :: header) block =
      some ⟨name, call.arguments, block⟩ := by
    rw [routine?, List.dropWhile_append_of_pos (List.all_eq_true.mp plain)]
    change (call? header).map _ = _
    rw [read]
    rfl
  have split := routinesFrom_append before [] block rest
  rw [List.nil_append, routine, List.append_assoc] at split
  exact split

variable (trampoline)

theorem routines_source :
    routines trampoline.source = [bodyRoutine trampoline, exportedRoutine trampoline] := by
  obtain ⟨text, body⟩ := outline_body trampoline trampoline.exported
  obtain ⟨text', exported⟩ := outline_exported trampoline []
  have read : call? (bodySignature trampoline) = some ⟨[], pieces ',' trampoline.bodyParameters,
    Trampoline.arrow trampoline.result trampoline.result.bodySource⟩ := rfl
  have read' : call? (exportedSignature trampoline) =
    some ⟨[], pieces ',' trampoline.exportedParameters,
      Trampoline.arrow trampoline.result trampoline.result.exportedSource⟩ := rfl
  have second := routines_append
    (Trampoline.doc text' ++ [Source.symbol '#',
      Source.bracketed [Source.name "unsafe", Source.parenthesized [Source.name "no_mangle"]],
      Source.name "pub", Source.name "extern", Source.string "system"])
    rfl rfl (hasNoBlock_exportedSignature trampoline) read' trampoline.symbol
    (exportedBlock trampoline) (outline [])
  have first := routines_append (Trampoline.doc text ++ [Source.name "pub"])
    rfl rfl (hasNoBlock_bodySignature trampoline) read trampoline.bodyName
    (bodyBlock trampoline) (outline trampoline.exported)
  have last : routinesFrom [] (outline trampoline.exported) = [exportedRoutine trampoline] := by
    rw [List.append_nil] at exported
    rw [exported]
    exact second
  rw [last] at first
  rw [routines, Trampoline.source, body]
  exact first

/-! ### Declarations -/

/-- Parameters with their types are read one by one, whatever form the types have. -/
theorem mapM_declarations {spelling : BoundaryType → Source}
    (clean : ∀ type, lacks ',' (spelling type) = true) (parameters : List Parameter) :
    (pieces ',' (Source.commaSeparated (parameters.map fun parameter =>
        .identifier parameter.name :: Source.symbol ':' :: spelling parameter.boundary))).mapM
        declaration? =
      some (parameters.map fun parameter => ⟨parameter.name, spelling parameter.boundary⟩) := by
  have separate : ∀ parameter ∈ parameters,
      (Tree.identifier parameter.name :: Source.symbol ':'
        :: spelling parameter.boundary).isEmpty = false ∧
      lacks ',' (.identifier parameter.name :: Source.symbol ':'
        :: spelling parameter.boundary) = true := by
    intro parameter _
    rw [lacks_cons, lacks_cons, clean]
    exact ⟨rfl, rfl⟩
  rw [pieces_commaSeparated (List.forall_mem_map.mpr separate), List.mapM_map]
  exact List.mapM_pure

theorem lacks_bodySource (type : BoundaryType) : lacks ',' type.bodySource = true := by
  cases type <;> rfl

theorem lacks_exportedSource (type : BoundaryType) : lacks ',' type.exportedSource = true := by
  cases type <;> rfl

theorem declarations?_body : (bodyRoutine trampoline).declarations? =
    some (⟨Trampoline.env, Source.words ["&", "mut", "B"]⟩ :: trampoline.parameters.map
      fun parameter => ⟨parameter.name, parameter.boundary.bodySource⟩) := by
  have parts : trampoline.bodyParameters = Source.words ["env", ":", "&", "mut", "B"]
      ++ Source.symbol ','
      :: Source.commaSeparated (trampoline.parameters.map Parameter.bodyDeclaration) := rfl
  have parameters : (pieces ',' (Source.commaSeparated
      (trampoline.parameters.map Parameter.bodyDeclaration))).mapM declaration? =
      some (trampoline.parameters.map fun parameter =>
        ⟨parameter.name, parameter.boundary.bodySource⟩) :=
    mapM_declarations lacks_bodySource trampoline.parameters
  rw [Routine.declarations?, bodyRoutine, parts, pieces_append rfl rfl rfl, List.mapM_cons,
    parameters]
  rfl

theorem declarations?_exported : (exportedRoutine trampoline).declarations? =
    some (⟨Trampoline.env, Source.words ["::", "jni", "::", "JNIEnv", "<"]
        ++ Source.lifetime "local" ++ Source.word ">"⟩
      :: ⟨⟨"_clazz", false⟩, Source.words ["::", "jni", "::", "objects", "::", "JClass", "<"]
        ++ Source.lifetime "local" ++ Source.word ">"⟩
      :: trampoline.parameters.map
        fun parameter => ⟨parameter.name, parameter.boundary.exportedSource⟩) := by
  have parts : trampoline.exportedParameters =
      (Source.words ["mut", "env", ":", "::", "jni", "::", "JNIEnv", "<"]
        ++ Source.lifetime "local" ++ Source.word ">") ++ Source.symbol ','
      :: ((Source.words ["_clazz", ":", "::", "jni", "::", "objects", "::", "JClass", "<"]
        ++ Source.lifetime "local" ++ Source.word ">") ++ Source.symbol ','
      :: Source.commaSeparated (trampoline.parameters.map Parameter.exportedDeclaration)) := rfl
  have parameters : (pieces ',' (Source.commaSeparated
      (trampoline.parameters.map Parameter.exportedDeclaration))).mapM declaration? =
      some (trampoline.parameters.map fun parameter =>
        ⟨parameter.name, parameter.boundary.exportedSource⟩) :=
    mapM_declarations lacks_exportedSource trampoline.parameters
  rw [Routine.declarations?, exportedRoutine, parts, pieces_append rfl rfl rfl,
    pieces_append rfl rfl rfl, List.mapM_cons, List.mapM_cons, parameters]
  rfl

/-! ### Calls -/

theorem call?_exportedBlock : call? (exportedBlock trampoline) =
    some ⟨[.identifier trampoline.bodyName], Source.words ["&", "mut", "env"]
      :: trampoline.parameters.map fun parameter => [.identifier parameter.name], []⟩ := by
  have read := @call?_append [.identifier trampoline.bodyName] rfl
    (Source.words ["&", "mut", "env"] ++ Source.symbol ',' :: Source.commaSeparated
      (trampoline.parameters.map fun parameter => [.identifier parameter.name])) []
  rw [pieces_append rfl rfl rfl, pieces_commaSeparated
    (List.forall_mem_map.mpr fun parameter _ => ⟨rfl, rfl⟩)] at read
  exact read

theorem closure?_body : (bodyRoutine trampoline).closure? = some trampoline.block := by
  let callee := outline trampoline.runtime.source
    ++ Source.words ["::", "exception", "::", "run_with_jni_exception_conversion"]
  let arguments := Source.words ["env", ","] ++ trampoline.result.defaultSource
    ++ Source.words [",", "|", "env", "|"] ++ [Source.braced trampoline.block]
  have path : hasPathParts callee = true := by
    rw [hasPathParts_append, trampoline.runtime.hasPathParts_outline]
    rfl
  have block : outline (bodyBlock trampoline) = callee ++ [Source.parenthesized arguments] := by
    rw [bodyBlock, List.append_assoc, trampoline.runtime.outline_append, outline_flat_append rfl,
      ← List.append_assoc, outline_cons rfl rfl]
    rfl
  have read := call?_append (parenthesized?_of_pathParts path) arguments []
  rw [Routine.closure?, bodyRoutine, block, read]
  dsimp only [arguments]
  cases trampoline.result <;> rfl

theorem closure?_exported : (exportedRoutine trampoline).closure? = none := by
  have block : outline (exportedBlock trampoline) = exportedBlock trampoline := rfl
  rw [Routine.closure?, exportedRoutine, block, call?_exportedBlock]
  simp only [Option.bind_eq_bind, Option.bind_some, Option.bind_eq_none_iff]
  intro argument last
  rcases List.mem_cons.mp (List.mem_of_getLast? last) with rfl | listed
  · rfl
  · obtain ⟨parameter, -, rfl⟩ := List.mem_map.mp listed
    rfl

/-- The outline of the path of the operation. -/
def calleeOf : Source :=
  outline trampoline.operations.source ++ Source.word "::" ++ [.identifier trampoline.operation]

def afterCall : Source := if trampoline.fallible then [Source.symbol '?'] else []

theorem isFlat_afterCall : isFlat (afterCall trampoline) = true := by
  rw [afterCall]
  split <;> rfl

/-- The call as a path with what follows it. -/
theorem call_eq : trampoline.call = trampoline.operations.source
    ++ ((Source.word "::" ++ [.identifier trampoline.operation, Source.parenthesized
      (Source.commaSeparated (trampoline.parameters.map Parameter.argument))])
    ++ afterCall trampoline) := by
  rw [Trampoline.call, List.append_assoc, List.append_assoc]
  rfl

theorem isNested_call : IsNested trampoline.call := by
  rw [call_eq]
  exact trampoline.operations.isPath.isNested.append
    ((isNested_of_isFlat rfl).append (isNested_of_isFlat (isFlat_afterCall trampoline)))

theorem outline_call : outline trampoline.call = calleeOf trampoline
    ++ Source.parenthesized (Source.commaSeparated (trampoline.parameters.map Parameter.argument))
    :: afterCall trampoline := by
  have after : outline (afterCall trampoline) = afterCall trampoline := by
    rw [afterCall]
    split <;> rfl
  rw [call_eq, trampoline.operations.outline_append, outline_flat_append rfl, after, calleeOf]
  simp only [List.append_assoc, List.cons_append, List.nil_append]

theorem hasPathParts_callee : hasPathParts (calleeOf trampoline) = true := by
  rw [calleeOf, hasPathParts_append, hasPathParts_append, Path.hasPathParts_outline]
  rfl

theorem lacks_argument (parameter : Parameter) :
    parameter.argument.isEmpty = false ∧ lacks ',' parameter.argument = true := by
  rw [Parameter.argument]
  cases parameter.byReference
  all_goals exact ⟨rfl, rfl⟩

theorem call?_call : call? (outline trampoline.call) = some ⟨calleeOf trampoline,
    trampoline.parameters.map Parameter.argument, afterCall trampoline⟩ := by
  rw [outline_call, call?_append (parenthesized?_of_pathParts (hasPathParts_callee trampoline)),
    pieces_commaSeparated (List.forall_mem_map.mpr fun parameter _ => lacks_argument parameter)]

theorem isEmpty_call : (outline trampoline.call).isEmpty = false := by
  rw [outline_call]
  simp

/-- A call is one statement that binds nothing. -/
theorem lacks_call {mark : Char} (other : mark ∈ [';', '=']) :
    lacks mark (outline trampoline.call) = true := by
  rw [outline_call, lacks_append, lacks_cons, afterCall]
  rcases List.mem_pair.mp other with rfl | rfl
  all_goals
    rw [lacks_of_pathParts (hasPathParts_callee trampoline) (by decide)]
    cases trampoline.fallible <;> rfl

end Functions

end SqliteBridge.Binding
