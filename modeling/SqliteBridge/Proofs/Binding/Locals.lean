import SqliteBridge.Proofs.Binding.Identifiers
import SqliteBridge.Proofs.Binding.Reading

/-! Parameters and their locals. The parameter at a position, its conversion and the local that
the conversion binds are all made from the position and the type, so the lists that a trampoline
prints run over the same positions; and all the names that it can bind differ. -/
namespace SqliteBridge.Binding

/-! ### Names -/

theorem nameAt_injective : Function.Injective Parameter.nameAt := by
  intro position other same
  have spelled := congrArg String.toList (Identifier.mk.inj same).1
  change (Parameter.nameAt position).name.toList = (Parameter.nameAt other).name.toList at spelled
  rw [toList_nameAt, toList_nameAt, List.cons.injEq, Nat.toString_eq_repr, Nat.toString_eq_repr,
    Nat.toList_repr, Nat.toList_repr] at spelled
  calc
    position = Nat.ofDigitChars 10 (Nat.toDigits 10 position) 0 :=
      Nat.ofDigitChars_ten_toDigits.symm
    _ = Nat.ofDigitChars 10 (Nat.toDigits 10 other) 0 := by rw [spelled.2]
    _ = other := Nat.ofDigitChars_ten_toDigits

theorem name_eq_of_localName {value other : Identifier}
    (same : Registry.localName value = Registry.localName other) : value.name = other.name := by
  have spelled := congrArg String.toList (Identifier.mk.inj same).1
  rw [String.toList_append, String.toList_append, List.append_cancel_left_eq] at spelled
  exact String.toList_inj.mp spelled

/-- The name that the converted argument at a position is bound to. -/
def localAt (position : Nat) : Identifier := Registry.localName (Parameter.nameAt position)

theorem localAt_injective : Function.Injective localAt := by
  intro position other same
  have name := name_eq_of_localName same
  apply nameAt_injective
  rw [Parameter.nameAt, Parameter.nameAt, Identifier.mk.injEq]
  exact ⟨name, rfl⟩

/-- The first character of a name. It tells most names of a trampoline apart. -/
def initial? (identifier : Identifier) : Option Char := identifier.name.toList.head?

theorem initial?_nameAt (position : Nat) : initial? (Parameter.nameAt position) = some 'p' := by
  rw [initial?, toList_nameAt]
  rfl

theorem initial?_localName (value : Identifier) :
    initial? (Registry.localName value) = some 'l' := by
  rw [initial?, Registry.localName, String.toList_append]
  rfl

theorem initial?_env : initial? Trampoline.env = some 'e' := by decide +kernel

theorem initial?_callResult : initial? Trampoline.callResult = some 'c' := by decide +kernel

/-- The names that the result of a call is bound to. -/
def resultNames : List Identifier :=
  [Trampoline.callResult, Registry.localName Trampoline.callResult]

theorem localAt_notMem_resultNames (position : Nat) : localAt position ∉ resultNames := by
  intro listed
  have head := initial?_nameAt position
  rcases List.mem_pair.mp listed with same | same
  · have first := initial?_localName (Parameter.nameAt position)
    rw [← localAt, same, initial?_callResult] at first
    revert first
    decide
  · rw [initial?, name_eq_of_localName same] at head
    revert head
    decide +kernel

/-- The names that a trampoline with some number of parameters can bind. -/
def localNames (count : Nat) : List Identifier :=
  (Trampoline.env :: (List.range count).map Parameter.nameAt)
    ++ ((List.range count).map localAt ++ resultNames)

theorem initial?_cases {count : Nat} :
    (∀ name ∈ Trampoline.env :: (List.range count).map Parameter.nameAt,
      initial? name ∈ [some 'e', some 'p']) ∧
    ∀ name ∈ (List.range count).map localAt ++ resultNames,
      initial? name ∈ [some 'l', some 'c'] := by
  constructor
  · rw [List.forall_mem_cons, List.forall_mem_map, initial?_env]
    refine ⟨List.mem_cons_self, fun position _ => ?_⟩
    rw [initial?_nameAt]
    decide
  · rw [List.forall_mem_append, List.forall_mem_map, resultNames, List.forall_mem_cons,
      List.forall_mem_singleton, initial?_callResult, initial?_localName]
    refine ⟨fun position _ => ?_, by decide, by decide⟩
    rw [localAt, initial?_localName]
    decide

theorem nodup_localNames (count : Nat) : (localNames count).Nodup := by
  have names : ((List.range count).map Parameter.nameAt).Nodup :=
    List.nodup_range.map nameAt_injective
  have locals : ((List.range count).map localAt).Nodup := List.nodup_range.map localAt_injective
  have results : resultNames.Nodup := by decide +kernel
  rw [localNames, List.nodup_append, List.nodup_cons, List.nodup_append]
  refine ⟨⟨?_, names⟩, ⟨locals, results, ?_⟩, ?_⟩
  · rw [List.mem_map]
    rintro ⟨position, -, same⟩
    have head := initial?_nameAt position
    rw [same, initial?_env] at head
    revert head
    decide
  · intro name listed other listed' same
    obtain ⟨position, -, rfl⟩ := List.mem_map.mp listed
    exact localAt_notMem_resultNames position (same ▸ listed')
  · -- What is declared starts with another character than what is bound.
    rintro name listed _ listed' rfl
    have first := initial?_cases.1 name listed
    have second := initial?_cases.2 name listed'
    revert first second
    generalize initial? name = head
    intro first
    rcases List.mem_pair.mp first with rfl | rfl
    all_goals decide

/-- The class is declared between the environment and the parameters. -/
theorem nodup_exportedNames (count : Nat) : (Trampoline.env :: ⟨"_clazz", false⟩
    :: (List.range count).map Parameter.nameAt).Nodup := by
  have names := (List.nodup_append.mp (nodup_localNames count)).1
  rw [List.nodup_cons] at names
  rw [List.nodup_cons, List.nodup_cons, List.mem_cons, not_or]
  refine ⟨⟨by decide +kernel, names.1⟩, ?_, names.2⟩
  rw [List.mem_map]
  rintro ⟨position, -, same⟩
  have head := initial?_nameAt position
  rw [same] at head
  revert head
  decide +kernel

/-! ### Conversions -/

namespace Converter

/-- The function or the type of the runtime that a conversion names. -/
def target : Converter → String
  | direct function => function
  | borrowing function => function
  | dereferencing function => function
  | resolving target => target
  | issuing => "handle_to_jni"

/-- Whether a conversion names something. -/
def IsSpelled (converter : Converter) : Prop := Identifier.isSpelled converter.target.toList = true

end Converter

/-- Whether every conversion of a registry names something. -/
def Registry.IsSpelled (registry : Registry) : Prop :=
  ∀ type entry, registry.find? type = some entry →
    ∀ direction converter, entry.converter? direction = some converter → converter.IsSpelled

theorem isSpelled_standard (removed : List LogicalType) :
    (removed.foldl Registry.without .standard).IsSpelled := by
  have entries : ∀ entry ∈ Registry.standard.entries,
      ∀ direction ∈ [Direction.fromBoundary, .toBoundary], ∀ converter ∈ entry.converter? direction,
        Identifier.isSpelled converter.target.toList = true := by decide +kernel
  intro type entry found direction converter converted
  rw [Registry.find?_foldl_without] at found
  split at found
  · contradiction
  · refine entries entry (List.mem_of_find?_eq_some found) direction ?_ converter converted
    cases direction with
    | fromBoundary => exact List.mem_cons_self
    | toBoundary => exact List.mem_cons_of_mem _ List.mem_cons_self

/-- An argument that is made from a value and from nothing else. -/
inductive Passes (value : Identifier) : Source → Prop
  | value : Passes value [.identifier value]
  | reference : Passes value [Source.symbol '&', .identifier value]
  | dereferenced : Passes value
      [.identifier value, Source.symbol '.', Source.name "as_deref", Source.parenthesized []]

/-- A source that calls a function on a value, and at most on the environment besides. -/
def ComputedFrom (value : Identifier) (source : Source) : Prop :=
  ∃ call, call? source = some call ∧ ∃ argument, Passes value argument ∧
    (call.arguments = [argument] ∨ call.arguments = [[.identifier Trampoline.env], argument])

theorem word_of_spelled {text : String} (spelled : Identifier.isSpelled text.toList = true) :
    Source.word text = [Source.name text] := by
  rw [Source.word, if_pos spelled]

theorem words_inModule {module function : String}
    (spelledModule : Identifier.isSpelled module.toList = true)
    (spelled : Identifier.isSpelled function.toList = true) :
    Source.words ["::", module, "::", function] =
      [.punctuation ':' true, .punctuation ':' false, Source.name module, .punctuation ':' true,
        .punctuation ':' false, Source.name function] := by
  rw [Source.words, List.flatMap_cons, List.flatMap_cons, List.flatMap_cons, List.flatMap_cons,
    word_of_spelled spelledModule, word_of_spelled spelled]
  rfl

theorem isNested_inModule (context : ConversionContext) {module function : String}
    (spelledModule : Identifier.isSpelled module.toList = true)
    (spelled : Identifier.isSpelled function.toList = true) :
    IsNested (Converter.inModule context module function) := by
  rw [Converter.inModule, words_inModule spelledModule spelled]
  exact context.runtime.isPath.isNested.append (isNested_of_isFlat rfl)

theorem hasPathParts_inModule (context : ConversionContext) {module function : String}
    (spelledModule : Identifier.isSpelled module.toList = true)
    (spelled : Identifier.isSpelled function.toList = true) :
    hasPathParts (outline (Converter.inModule context module function)) = true := by
  rw [Converter.inModule, words_inModule spelledModule spelled, context.runtime.outline_append,
    hasPathParts_append, context.runtime.hasPathParts_outline]
  rfl

/-- The outline of the expression of a conversion is a path that is called on the value. -/
theorem converter_source {converter : Converter} (spelled : converter.IsSpelled)
    (context : ConversionContext) (value : Identifier) :
    ∃ callee arguments after, IsNested (converter.source context value) ∧
      outline (converter.source context value) =
        callee ++ Source.parenthesized arguments :: after ∧
      hasPathParts callee = true ∧ lacks ';' after = true ∧
      ∃ argument, Passes value argument ∧ (pieces ',' arguments = [argument] ∨
        pieces ',' arguments = [[.identifier context.env], argument]) := by
  have marshal : Identifier.isSpelled "marshal".toList = true := by decide +kernel
  have handles : Identifier.isSpelled "handles".toList = true := by decide +kernel
  -- A function of the runtime on arguments without angle brackets.
  have called {module function : String} (spelledModule : Identifier.isSpelled module.toList = true)
      (spelled : Identifier.isSpelled function.toList = true) (rest : Source)
      (flat : isFlat rest = true) :
      IsNested (Converter.inModule context module function ++ rest) ∧
        outline (Converter.inModule context module function ++ rest) =
          outline (Converter.inModule context module function) ++ rest := by
    have nested := isNested_inModule context spelledModule spelled
    refine ⟨nested.append (isNested_of_isFlat flat), ?_⟩
    rw [nested.outline_append, ← List.append_nil rest, outline_flat_append flat]
    rfl
  cases converter with
  | direct function =>
    obtain ⟨nested, outlined⟩ := called marshal spelled
      [Source.parenthesized [.identifier value]] rfl
    exact ⟨_, _, [], nested, outlined, hasPathParts_inModule context marshal spelled, rfl, _,
      .value, .inl rfl⟩
  | borrowing function =>
    obtain ⟨nested, outlined⟩ := called marshal spelled [Source.parenthesized
      [.identifier context.env, Source.symbol ',', Source.symbol '&', .identifier value],
        Source.symbol '?'] rfl
    refine ⟨_, _, [Source.symbol '?'], nested, outlined,
      hasPathParts_inModule context marshal spelled, rfl, _, .reference, .inr ?_⟩
    rfl
  | dereferencing function =>
    obtain ⟨nested, outlined⟩ := called marshal spelled [Source.parenthesized
      [.identifier context.env, Source.symbol ',', .identifier value, Source.symbol '.',
        Source.name "as_deref", Source.parenthesized []], Source.symbol '?'] rfl
    refine ⟨_, _, [Source.symbol '?'], nested, outlined,
      hasPathParts_inModule context marshal spelled, rfl, _, .dereferenced, .inr ?_⟩
    rfl
  | resolving target =>
    have resolver : Identifier.isSpelled "handle_from_jni".toList = true := by decide +kernel
    have type : IsNested (Converter.inModule context "handles" target) :=
      isNested_inModule context handles spelled
    have shape : (Converter.resolving target).source context value =
        Converter.inModule context "handles" "handle_from_jni"
          ++ ([.punctuation ':' true, .punctuation ':' false]
          ++ (.punctuation '<' false :: (Converter.inModule context "handles" target
          ++ .punctuation '>' false :: [Source.parenthesized [.identifier value]]))) := by
      rw [Converter.source]
      simp only [List.append_assoc, List.cons_append, List.nil_append]
      rfl
    have nested := isNested_inModule context handles resolver
    refine ⟨outline (Converter.inModule context "handles" "handle_from_jni")
      ++ [.punctuation ':' true, .punctuation ':' false], [.identifier value], [], ?_, ?_, ?_, rfl, _,
      .value, .inl rfl⟩
    · rw [shape]
      exact nested.append ((isNested_of_isFlat rfl).append
        (.angles false false type (isNested_of_isFlat rfl)))
    · rw [shape, nested.outline_append, outline_flat_append rfl, outline_angles type,
        List.append_assoc]
      rfl
    · rw [hasPathParts_append, hasPathParts_inModule context handles resolver]
      rfl
  | issuing =>
    have issuer : Identifier.isSpelled "handle_to_jni".toList = true := by decide +kernel
    obtain ⟨nested, outlined⟩ := called handles issuer [Source.parenthesized
      [Source.symbol '&', .identifier value], Source.symbol '?'] rfl
    refine ⟨_, _, [Source.symbol '?'], nested, outlined,
      hasPathParts_inModule context handles issuer, rfl, _, .reference, .inl ?_⟩
    rfl

theorem computedFrom_source {converter : Converter} (spelled : converter.IsSpelled)
    (runtime : Path) (value : Identifier) :
    ComputedFrom value (outline (converter.source ⟨Trampoline.env, runtime⟩ value)) := by
  obtain ⟨callee, arguments, after, -, source, parts, -, computed⟩ :=
    converter_source spelled ⟨Trampoline.env, runtime⟩ value
  rw [source]
  exact ⟨_, call?_append (parenthesized?_of_pathParts parts) arguments after, computed⟩

theorem lacks_source {converter : Converter} (spelled : converter.IsSpelled)
    (context : ConversionContext) (value : Identifier) :
    lacks ';' (outline (converter.source context value)) = true := by
  obtain ⟨callee, arguments, after, -, source, parts, clean, -⟩ :=
    converter_source spelled context value
  rw [source, lacks_append, lacks_cons, lacks_of_pathParts parts (by decide), clean]
  rfl

/-- A binding with its semicolon is one statement. -/
theorem pieces_let (name : Identifier) {source : Source} (nested : IsNested source)
    (clean : lacks ';' (outline source) = true) (rest : Source) :
    (pieces ';' (outline (Source.word "let" ++ .identifier name :: Source.symbol '=' :: source
        ++ [Source.symbol ';'] ++ rest))).map statement =
      .binding name (outline source) :: (pieces ';' (outline rest)).map statement := by
  have shape : Source.word "let" ++ .identifier name :: Source.symbol '=' :: source
      ++ [Source.symbol ';'] ++ rest =
      [Source.name "let", .identifier name, Source.symbol '=']
        ++ (source ++ ([Source.symbol ';'] ++ rest)) := by
    simp only [List.append_assoc, List.cons_append, List.nil_append]
    rfl
  have outlined : outline (Source.word "let" ++ .identifier name :: Source.symbol '=' :: source
      ++ [Source.symbol ';'] ++ rest) =
      (Source.name "let" :: .identifier name :: Source.symbol '=' :: outline source)
        ++ Source.symbol ';' :: outline rest := by
    rw [shape, outline_flat_append rfl, nested.outline_append, outline_flat_append rfl]
    rfl
  rw [outlined, pieces_append rfl _ rfl]
  · rfl
  · rw [lacks_cons, lacks_cons, lacks_cons, clean]
    rfl

/-- A statement that binds the local of a value to what a function makes of it. -/
def Converts (value : Identifier) (statement : Statement) : Prop :=
  ∃ source, statement = .binding (Registry.localName value) source ∧ ComputedFrom value source

/-- A conversion is one statement, or none where the type has no conversion. -/
theorem convert_cases_statement {registry : Registry} (spelled : registry.IsSpelled)
    {type : LogicalType} {direction : Direction} {value : Identifier} {runtime : Path}
    {conversion : Conversion}
    (converted : registry.convert type direction value ⟨Trampoline.env, runtime⟩ =
      some conversion) :
    (registry.hasConversion type direction = false ∧ conversion = ⟨[], value⟩) ∨
    registry.hasConversion type direction = true ∧
      conversion.bound = Registry.localName value ∧
      ∃ result, Converts value result ∧ ∀ rest,
        (pieces ';' (outline (conversion.statement ++ rest))).map statement =
          result :: (pieces ';' (outline rest)).map statement := by
  rw [Registry.convert] at converted
  rw [Registry.hasConversion]
  split at converted
  · contradiction
  · rename_i entry found
    rw [found]
    dsimp only
    split at converted
    · rename_i converter named
      cases Option.some.inj converted
      have known := spelled type entry found direction converter named
      have converts : Converts value _ := ⟨_, rfl, computedFrom_source known runtime value⟩
      obtain ⟨_, _, _, nested, -⟩ := converter_source known ⟨Trampoline.env, runtime⟩ value
      refine .inr ⟨by rw [named]; rfl, rfl, _, converts, ?_⟩
      exact pieces_let _ nested (lacks_source known _ value)
    · rename_i named
      cases Option.some.inj converted
      exact .inl ⟨by rw [named]; rfl, rfl⟩

end SqliteBridge.Binding
