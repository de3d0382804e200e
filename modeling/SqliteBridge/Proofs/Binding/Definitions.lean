import Mathlib.Data.List.Nodup
import SqliteBridge.Proofs.Binding.Headers
import SqliteBridge.Proofs.Binding.Paths

/-! What a generated file defines, read off the outline of its tokens. The constants come first, and then
the body and the entry point of every method in order; no two of them have the same name.
The table of native methods has every method of the file once, and each has one entry point. -/
namespace SqliteBridge.Binding

/-! ### Reading items -/

/-- The items of a file. -/
inductive ItemKind where
  | constant
  | function
  /-- An exported function. -/
  | entryPoint
deriving DecidableEq

namespace Tree

def isWord (text : String) : Tree → Bool
  | identifier name => !name.isRaw && name.name == text
  | _ => false

/-- A group in braces. -/
def isBlock : Tree → Bool
  | group .brace _ => true
  | _ => false

def isSemicolon : Tree → Bool
  | punctuation c _ => c == ';'
  | _ => false

/-- The attribute under which a function is exported by its name. -/
def isExport : Tree → Bool
  | group .bracket [marker, group .parenthesis [mark]] =>
    marker.isWord "unsafe" && mark.isWord "no_mangle"
  | _ => false

end Tree

/-- Whether an item ends with a tree: a constant with a semicolon, and a function with the
block that it runs. -/
def ItemKind.endsWith : ItemKind → Tree → Bool
  | constant => Tree.isSemicolon
  | function => Tree.isBlock
  | entryPoint => Tree.isBlock

structure Item where
  kind : ItemKind
  name : Identifier
  /-- What stands between the name and the end of the item. -/
  content : Source

/-- Where in a file a reader is. Between items it knows whether it has seen the attribute
that exports the next one. -/
inductive Place where
  | between (exported : Bool)
  | naming (kind : ItemKind)
  | within (kind : ItemKind)

/-- The items of a source from some place of it on. -/
def items : Place → Source → List Item
  | _, [] => []
  | .between exported, tree :: rest =>
    if tree.isWord "const" then items (.naming .constant) rest
    else if tree.isWord "fn" then
      items (.naming (if exported then .entryPoint else .function)) rest
    else items (.between (exported || tree.isExport)) rest
  | .naming kind, .identifier name :: rest =>
    ⟨kind, name, rest.takeWhile fun tree => !kind.endsWith tree⟩ :: items (.within kind) rest
  | .naming _, _ :: rest => items (.between false) rest
  | .within kind, tree :: rest =>
    if kind.endsWith tree then items (.between false) rest else items (.within kind) rest

/-- What a file defines, in order. -/
def definitions (source : Source) : List (ItemKind × Identifier) :=
  (items (.between false) (outline source)).map fun item => (item.kind, item.name)

/-- The literals of an entry of the table of native methods. -/
def entry? : Tree → Option (String × String)
  | .group .parenthesis [.literal method, _, .literal descriptor] => some (method, descriptor)
  | _ => none

/-- The entries of the table of native methods of a file. -/
def listedMethods (source : Source) : List (String × String) :=
  match (items (.between false) (outline source)).find? fun item =>
      item.name.name == "NATIVE_METHODS" with
  | none => []
  | some table =>
    match table.content.getLast? with
    | some (.group .bracket entries) => entries.filterMap entry?
    | _ => []

/-! ### Reading one item -/

section Item

variable {kind : ItemKind} {content : Source} {last : Tree}

theorem items_within (inside : content.all (fun tree => !kind.endsWith tree) = true)
    (ends : kind.endsWith last = true) (rest : Source) :
    items (.within kind) (content ++ last :: rest) = items (.between false) rest := by
  induction content with
  | nil => rw [List.nil_append, items, if_pos ends]
  | cons tree content ih =>
    rw [List.all_cons, Bool.and_eq_true, Bool.not_eq_true'] at inside
    rw [List.cons_append, items, inside.1, if_neg Bool.false_ne_true, ih inside.2]

theorem items_naming (inside : content.all (fun tree => !kind.endsWith tree) = true)
    (ends : kind.endsWith last = true) (name : Identifier) (rest : Source) :
    items (.naming kind) (.identifier name :: (content ++ last :: rest)) =
      ⟨kind, name, content⟩ :: items (.between false) rest := by
  have taken : (content ++ last :: rest).takeWhile (fun tree => !kind.endsWith tree) = content := by
    rw [List.takeWhile_append_of_pos (List.all_eq_true.mp inside),
      List.takeWhile_cons_of_neg (by simp [ends]), List.append_nil]
  rw [items, items_within inside ends, taken]

end Item

/-! ### No blocks in types -/

/-- Whether a source has no block of its own. -/
def hasNoBlock (source : Source) : Bool := source.all fun tree => !tree.isBlock

theorem hasNoBlock_append (first rest : Source) :
    hasNoBlock (first ++ rest) = (hasNoBlock first && hasNoBlock rest) := List.all_append

theorem hasNoBlock_cons (tree : Tree) (rest : Source) :
    hasNoBlock (tree :: rest) = (!tree.isBlock && hasNoBlock rest) := List.all_cons

theorem hasNoBlock_bodySource (type : BoundaryType) : hasNoBlock type.bodySource = true := by
  cases type <;> rfl

theorem hasNoBlock_exportedSource (type : BoundaryType) :
    hasNoBlock type.exportedSource = true := by
  cases type <;> rfl

theorem hasNoBlock_arrow (result : BoundaryType) {source : Source}
    (flat : hasNoBlock source = true) : hasNoBlock (Trampoline.arrow result source) = true := by
  rw [Trampoline.arrow]
  split
  · rfl
  · rw [hasNoBlock_append, flat]
    rfl

/-! ### The items of a trampoline -/

theorem outline_arrow_append (result : BoundaryType) {source : Source}
    (flat : isFlat source = true) (rest : Source) :
    outline (Trampoline.arrow result source ++ rest) =
      Trampoline.arrow result source ++ outline rest := by
  rw [Trampoline.arrow]
  split
  · rfl
  · rw [List.append_assoc, List.append_assoc, ← outline_flat_append flat]
    exact outline_arrow false (source ++ rest)

theorem isFlat_bodySource (type : BoundaryType) : isFlat type.bodySource = true := by
  cases type <;> rfl

theorem isFlat_exportedSource (type : BoundaryType) : isFlat type.exportedSource = true := by
  cases type <;> rfl

/-- What stands between the name of a body and its block, less the bound of its parameter. -/
def bodySignature (trampoline : Trampoline) : Source :=
  Source.parenthesized trampoline.bodyParameters
    :: Trampoline.arrow trampoline.result trampoline.result.bodySource

/-- What a body runs: its block under the conversion of failures. -/
def bodyBlock (trampoline : Trampoline) : Source :=
  trampoline.runtime.source
    ++ Source.words ["::", "exception", "::", "run_with_jni_exception_conversion"]
    ++ [Source.parenthesized (
      Source.words ["env", ","] ++ trampoline.result.defaultSource
        ++ Source.words [",", "|", "env", "|"] ++ [Source.braced trampoline.block])]

theorem body_eq (trampoline : Trampoline) : ∃ text, trampoline.body =
    Trampoline.doc text ++ Source.name "pub" :: Source.name "fn"
      :: .identifier trampoline.bodyName
      :: (Source.words ["<", "B", ":"] ++ trampoline.runtime.source
        ++ Source.words ["::", "marshal", "::", "Boundary", ">"]
        ++ bodySignature trampoline ++ [Source.braced (bodyBlock trampoline)]) :=
  ⟨_, rfl⟩

theorem outline_body (trampoline : Trampoline) (rest : Source) : ∃ text,
    outline (trampoline.body ++ rest) =
      Trampoline.doc text ++ Source.name "pub" :: Source.name "fn"
        :: .identifier trampoline.bodyName
        :: (bodySignature trampoline ++ Source.braced (bodyBlock trampoline) :: outline rest) := by
  obtain ⟨text, body⟩ := body_eq trampoline
  have bound : IsNested (Source.words ["B", ":"] ++ trampoline.runtime.source
      ++ Source.words ["::", "marshal", "::", "Boundary"]) :=
    ((isNested_of_isFlat rfl).append trampoline.runtime.isPath.isNested).append
      (isNested_of_isFlat rfl)
  have shape : trampoline.body ++ rest =
      (Trampoline.doc text
        ++ [Source.name "pub", Source.name "fn", .identifier trampoline.bodyName])
      ++ (.punctuation '<' false :: ((Source.words ["B", ":"] ++ trampoline.runtime.source
        ++ Source.words ["::", "marshal", "::", "Boundary"]) ++ .punctuation '>' false
      :: (bodySignature trampoline ++ Source.braced (bodyBlock trampoline) :: rest))) := by
    rw [body]
    simp only [List.append_assoc, List.cons_append, List.nil_append]
    rfl
  refine ⟨text, ?_⟩
  rw [shape, outline_flat_append rfl, outline_angles bound, bodySignature, List.cons_append,
    outline_cons rfl rfl, outline_arrow_append _ (isFlat_bodySource _), outline_cons rfl rfl]
  rfl

/-- What stands between the name of an entry point and its block, less its lifetime. -/
def exportedSignature (trampoline : Trampoline) : Source :=
  Source.parenthesized trampoline.exportedParameters
    :: Trampoline.arrow trampoline.result trampoline.result.exportedSource

/-- What an entry point runs: the body of its method. -/
def exportedBlock (trampoline : Trampoline) : Source :=
  [.identifier trampoline.bodyName,
    Source.parenthesized (Source.words ["&", "mut", "env", ","]
      ++ Source.commaSeparated
        (trampoline.parameters.map fun parameter => [.identifier parameter.name]))]

theorem exported_eq (trampoline : Trampoline) : ∃ text, trampoline.exported =
    Trampoline.doc text ++ Source.symbol '#'
      :: Source.bracketed [Source.name "unsafe", Source.parenthesized [Source.name "no_mangle"]]
      :: Source.name "pub" :: Source.name "extern" :: Source.string "system" :: Source.name "fn"
      :: .identifier trampoline.symbol
      :: (Source.word "<" ++ Source.lifetime "local" ++ Source.word ">"
        ++ (exportedSignature trampoline ++ [Source.braced (exportedBlock trampoline)])) :=
  ⟨_, rfl⟩

theorem outline_exported (trampoline : Trampoline) (rest : Source) : ∃ text,
    outline (trampoline.exported ++ rest) =
      Trampoline.doc text ++ Source.symbol '#'
        :: Source.bracketed [Source.name "unsafe", Source.parenthesized [Source.name "no_mangle"]]
        :: Source.name "pub" :: Source.name "extern" :: Source.string "system" :: Source.name "fn"
        :: .identifier trampoline.symbol
        :: (exportedSignature trampoline ++ Source.braced (exportedBlock trampoline)
        :: outline rest) := by
  obtain ⟨text, exported⟩ := exported_eq trampoline
  have lifetime : IsNested (Source.lifetime "local") := isNested_of_isFlat rfl
  have shape : trampoline.exported ++ rest =
      (Trampoline.doc text ++ [Source.symbol '#',
        Source.bracketed [Source.name "unsafe", Source.parenthesized [Source.name "no_mangle"]],
        Source.name "pub", Source.name "extern", Source.string "system", Source.name "fn",
        .identifier trampoline.symbol])
      ++ (.punctuation '<' false :: (Source.lifetime "local" ++ .punctuation '>' false
      :: (exportedSignature trampoline ++ Source.braced (exportedBlock trampoline) :: rest))) := by
    rw [exported]
    simp only [List.append_assoc, List.cons_append, List.nil_append]
    rfl
  refine ⟨text, ?_⟩
  rw [shape, outline_flat_append rfl, outline_angles lifetime, exportedSignature,
    List.cons_append, outline_cons rfl rfl, outline_arrow_append _ (isFlat_exportedSource _),
    outline_cons rfl rfl]
  rfl

theorem hasNoBlock_bodySignature (trampoline : Trampoline) :
    hasNoBlock (bodySignature trampoline) = true := by
  rw [bodySignature, hasNoBlock_cons, hasNoBlock_arrow _ (hasNoBlock_bodySource _)]
  rfl

theorem hasNoBlock_exportedSignature (trampoline : Trampoline) :
    hasNoBlock (exportedSignature trampoline) = true := by
  rw [exportedSignature, hasNoBlock_cons, hasNoBlock_arrow _ (hasNoBlock_exportedSource _)]
  rfl

theorem items_body (trampoline : Trampoline) (rest : Source) :
    items (.between false) (outline (trampoline.body ++ rest)) =
      ⟨.function, trampoline.bodyName, bodySignature trampoline⟩
        :: items (.between false) (outline rest) := by
  obtain ⟨text, body⟩ := outline_body trampoline rest
  have inside : (bodySignature trampoline).all (fun tree => !ItemKind.function.endsWith tree) =
      true := hasNoBlock_bodySignature trampoline
  have ends : ItemKind.function.endsWith (Source.braced (bodyBlock trampoline)) = true := rfl
  rw [body, ← items_naming inside ends trampoline.bodyName (outline rest)]
  rfl

theorem items_exported (trampoline : Trampoline) (rest : Source) :
    items (.between false) (outline (trampoline.exported ++ rest)) =
      ⟨.entryPoint, trampoline.symbol, exportedSignature trampoline⟩
        :: items (.between false) (outline rest) := by
  obtain ⟨text, exported⟩ := outline_exported trampoline rest
  have inside : (exportedSignature trampoline).all
      (fun tree => !ItemKind.entryPoint.endsWith tree) = true :=
    hasNoBlock_exportedSignature trampoline
  have ends : ItemKind.entryPoint.endsWith (Source.braced (exportedBlock trampoline)) = true := rfl
  rw [exported, ← items_naming inside ends trampoline.symbol (outline rest)]
  rfl

/-! ### The items of the table -/

/-- What stands between the name of the class constant and its end. -/
def classContent (className : String) : Source :=
  Source.words [":", "&", "str", "="] ++ [Source.string className]

def tableEntries (pairs : List Pair) : Source :=
  Source.commaSeparated (pairs.map fun pair =>
    [Source.parenthesized
      [Source.string pair.boundary.name, Source.symbol ',', Source.string pair.descriptor]])

/-- What stands between the name of the table of native methods and its end. -/
def tableContent (pairs : List Pair) : Source :=
  Source.words [":", "&"]
    ++ Source.bracketed [Source.parenthesized (Source.words ["&", "str", ",", "&", "str"])]
    :: Source.words ["=", "&"] ++ [Source.bracketed (tableEntries pairs)]

theorem registrationTable_eq (className : String) (pairs : List Pair) : ∃ text text',
    registrationTable className pairs =
      Trampoline.doc text ++ Source.name "pub" :: Source.name "const"
        :: Source.name "JNI_CLASS" :: (classContent className ++ Source.symbol ';'
        :: (Trampoline.doc text' ++ Source.name "pub" :: Source.name "const"
        :: Source.name "NATIVE_METHODS" :: (tableContent pairs ++ [Source.symbol ';']))) :=
  ⟨_, _, rfl⟩

theorem items_registrationTable (className : String) (pairs : List Pair) (rest : Source) :
    items (.between false) (outline (registrationTable className pairs ++ rest)) =
      ⟨.constant, ⟨"JNI_CLASS", false⟩, classContent className⟩
        :: ⟨.constant, ⟨"NATIVE_METHODS", false⟩, tableContent pairs⟩
        :: items (.between false) (outline rest) := by
  obtain ⟨text, text', table⟩ := registrationTable_eq className pairs
  have flat : isFlat (registrationTable className pairs) = true := rfl
  rw [outline_flat_append flat]
  generalize outline rest = rest
  have ends : ItemKind.constant.endsWith (Source.symbol ';') = true := rfl
  have inside : (classContent className).all (fun tree => !ItemKind.constant.endsWith tree) =
      true := rfl
  have inside' : (tableContent pairs).all (fun tree => !ItemKind.constant.endsWith tree) =
      true := rfl
  have second := items_naming inside' ends ⟨"NATIVE_METHODS", false⟩ rest
  have first := items_naming inside ends ⟨"JNI_CLASS", false⟩
    (Trampoline.doc text' ++ Source.name "pub" :: Source.name "const"
      :: Source.name "NATIVE_METHODS" :: (tableContent pairs ++ Source.symbol ';' :: rest))
  rw [table, ← second]
  simp only [List.cons_append, List.append_assoc, List.nil_append]
  exact first

theorem items_trampolines (trampolines : List Trampoline) :
    (items (.between false) (outline (trampolines.map Trampoline.source).flatten)).map
        (fun item => (item.kind, item.name)) =
      trampolines.flatMap fun trampoline =>
        [(.function, trampoline.bodyName), (.entryPoint, trampoline.symbol)] := by
  induction trampolines with
  | nil => rfl
  | cons trampoline rest ih =>
    rw [List.map_cons, List.flatten_cons, Trampoline.source, List.append_assoc, items_body,
      items_exported, List.map_cons, List.map_cons, ih, List.flatMap_cons]
    rfl

/-! ### Literals -/

/-- Whether a literal spells a character as itself. -/
def isPlain (c : Char) : Bool := c != '\x00' && Text.escapeChar c == [c]

theorem literalBody_plain {text : List Char} (plain : text.all isPlain = true) :
    Text.literalBody text = text := by
  induction text with
  | nil => rfl
  | cons c rest ih =>
    rw [List.all_cons, Bool.and_eq_true, isPlain, Bool.and_eq_true, bne_iff_ne, beq_iff_eq] at plain
    rw [Text.literalBody.eq_def]
    dsimp only
    rw [if_neg plain.1.1, plain.1.2, ih plain.2, List.singleton_append]

theorem literal_plain {text : String} (plain : text.toList.all isPlain = true) :
    Text.literal text = "\"" ++ text ++ "\"" := by
  rw [Text.literal, literalBody_plain plain]
  apply String.toList_inj.mp
  simp

theorem plain_alphanumeric {c : Char} (alphanumeric : isAsciiAlphanumeric c = true) :
    isPlain c = true :=
  forall_ascii (P := fun c => isAsciiAlphanumeric c = true → isPlain c = true)
    (by decide +kernel) (toNat_lt_of_alphanumeric alphanumeric) alphanumeric

theorem plain_descriptor (type : BoundaryType) : type.descriptor.toList.all isPlain = true := by
  cases type
  all_goals decide +kernel

theorem plain_methodDescriptor (parameters : List BoundaryType) (result : BoundaryType) :
    (methodDescriptor parameters result).toList.all isPlain = true := by
  have codes : (String.join (parameters.map BoundaryType.descriptor)).toList.all isPlain = true := by
    rw [String.toList_join, List.all_flatMap, List.all_map]
    exact List.all_eq_true.mpr fun type _ => plain_descriptor type
  have opening : "(".toList.all isPlain = true := by decide +kernel
  have closing : ")".toList.all isPlain = true := by decide +kernel
  rw [methodDescriptor, String.toList_append, String.toList_append, String.toList_append,
    List.all_append, List.all_append, List.all_append, codes, opening, closing, plain_descriptor]
  rfl

/-- The entries of the table, as they are written. -/
theorem filterMap_tableEntries (pairs : List Pair) :
    (tableEntries pairs).filterMap entry? =
      pairs.map fun pair => (Text.literal pair.boundary.name, Text.literal pair.descriptor) := by
  induction pairs with
  | nil => rfl
  | cons pair rest ih =>
    cases rest with
    | nil => rfl
    | cons next rest =>
      have more : tableEntries (pair :: next :: rest) =
          [Source.parenthesized
            [Source.string pair.boundary.name, Source.symbol ',', Source.string pair.descriptor]]
          ++ Source.symbol ',' :: tableEntries (next :: rest) := rfl
      have skipped : (Source.symbol ',' :: tableEntries (next :: rest)).filterMap entry? =
          (tableEntries (next :: rest)).filterMap entry? := rfl
      rw [more, List.filterMap_append, skipped, ih]
      rfl

theorem listedMethods_eq (className : String) (pairs : List Pair) (rest : Source) :
    listedMethods (registrationTable className pairs ++ rest) =
      pairs.map fun pair => (Text.literal pair.boundary.name, Text.literal pair.descriptor) := by
  rw [listedMethods, items_registrationTable, ← filterMap_tableEntries]
  rfl

/-! ### Distinct names -/

/-- The symbols of different methods of a class differ, as long as they can be read back. -/
theorem symbolName_inj {className method other : String} (readable : IsReadable className.toList)
    (readableMethod : IsReadableMethod method.toList)
    (readableOther : IsReadableMethod other.toList)
    (same : symbolName className method = symbolName className other) : method = other := by
  have spelled := congrArg String.toList same
  rw [toList_symbolName, toList_symbolName, List.append_cancel_left_eq] at spelled
  have joined := congrArg demangleChars spelled
  rw [demangle_mangleChars (isReadable_join readable readableMethod),
    demangle_mangleChars (isReadable_join readable readableOther), List.append_cancel_left_eq,
    List.cons.injEq] at joined
  exact String.toList_inj.mp joined.2

/-- Whether a name starts with a lower case letter. Bodies do, and nothing else that a
generated file defines. -/
def startsLower (name : String) : Bool := name.toList.head?.any Config.isAsciiLower

theorem startsLower_symbolName (className method : String) :
    startsLower (symbolName className method) = false := by
  rw [startsLower, toList_symbolName]
  rfl

theorem symbolName_ne_constant (className method : String) :
    symbolName className method ≠ "JNI_CLASS" ∧ symbolName className method ≠ "NATIVE_METHODS" := by
  constructor
  all_goals
    intro same
    have spelled := congrArg String.toList same
    rw [toList_symbolName] at spelled
    simp at spelled

/-- Operations with different names, each of them words with underscores between. -/
structure DistinctlyNamed (operations : List Operation) : Prop where
  named : ∀ operation ∈ operations, isOperationName true operation.name.toList = true
  names_nodup : (operations.map Operation.name).Nodup

/-- The names that pairs have in a generated file are all different. -/
structure NamesApart (className : String) (pairs : List Pair) : Prop where
  methods_nodup : (pairs.map fun pair => pair.boundary.name).Nodup
  symbols_nodup : (pairs.map fun pair => pair.symbol className).Nodup
  bodies_nodup : (pairs.map fun pair => snakeCase pair.boundary.name).Nodup
  body_ne_symbol : ∀ pair ∈ pairs, ∀ other ∈ pairs,
    snakeCase pair.boundary.name ≠ other.symbol className
  body_ne_constant : ∀ pair ∈ pairs, snakeCase pair.boundary.name ≠ "JNI_CLASS" ∧
    snakeCase pair.boundary.name ≠ "NATIVE_METHODS"

section Pairs

variable {tools : Toolkit} {registry : Registry} {config : Config}
  (valid : config.validate tools = .ok ()) {operations : List Operation} {pairs : List Pair}
  (derived : List.Forall₂ (Derived registry config.methodStart) operations pairs)
  (distinct : DistinctlyNamed operations)

include derived in
theorem map_boundary_name : (pairs.map fun pair => pair.boundary.name) =
    (operations.map Operation.name).map (methodName config.methodStart) := by
  induction derived with
  | nil => rfl
  | cons first _ ih => rw [List.map_cons, List.map_cons, List.map_cons, first.name_eq, ih]

include valid derived distinct

theorem startsLower_body : ∀ pair ∈ pairs, startsLower (snakeCase pair.boundary.name) = true := by
  intro pair listed
  obtain ⟨operation, listed, made⟩ := exists_derived derived pair listed
  obtain ⟨first, rest, spelled, lower⟩ :=
    snakeCase_methodName_cons (parts_of_validate valid).1 (distinct.named operation listed)
  rw [made.name_eq, startsLower, spelled]
  exact lower

theorem ofText_body : ∀ pair ∈ pairs, Identifier.ofText (snakeCase pair.boundary.name) =
    .ok ⟨snakeCase pair.boundary.name, false⟩ := by
  intro pair listed
  obtain ⟨operation, listed, made⟩ := exists_derived derived pair listed
  rw [made.name_eq]
  exact ofText_bodyName (parts_of_validate valid).1 (distinct.named operation listed)

theorem isReadableMethod_boundary :
    ∀ method ∈ pairs.map fun pair => pair.boundary.name, IsReadableMethod method.toList := by
  rw [List.forall_mem_map]
  intro pair listed
  obtain ⟨operation, listed, made⟩ := exists_derived derived pair listed
  rw [made.name_eq]
  exact isReadableMethod_methodName (parts_of_validate valid).1 (distinct.named operation listed)

/-- The literals of the table are the names and descriptors between quotes. -/
theorem literals_of_derived : (pairs.map fun pair =>
      (Text.literal pair.boundary.name, Text.literal pair.descriptor)) =
    pairs.map fun pair =>
      ("\"" ++ pair.boundary.name ++ "\"", "\"" ++ pair.descriptor ++ "\"") := by
  rw [List.map_inj_left]
  intro pair listed
  obtain ⟨operation, listed, made⟩ := exists_derived derived pair listed
  have name : pair.boundary.name.toList.all isPlain = true := by
    rw [made.name_eq]
    exact List.all_eq_true.mpr fun c listed' => plain_alphanumeric
      (ascii_methodName (parts_of_validate valid).1 (distinct.named operation listed) c listed')
  have descriptor : pair.descriptor.toList.all isPlain = true := by
    rw [made.descriptor_eq]
    exact plain_methodDescriptor _ _
  rw [literal_plain name, literal_plain descriptor]

theorem nodup_bodies :
    ((pairs.map fun pair => pair.boundary.name).map snakeCase).Nodup := by
  have start := (parts_of_validate valid).1
  have shaped : ∀ name ∈ operations.map Operation.name, isOperationName true name.toList = true :=
    List.forall_mem_map.mpr distinct.named
  rw [map_boundary_name derived, List.map_map]
  exact List.Nodup.map_on (fun name listed other listed' same =>
    eq_of_snakeCase_methodName start (shaped name listed) (shaped other listed') same) distinct.names_nodup

theorem namesApart_of_derived : NamesApart config.className pairs := by
  have readable := (isReadable_of_isClassName (isClassName_of_validate valid)).1
  have readableMethod := isReadableMethod_boundary valid derived distinct
  have bodies := nodup_bodies valid derived distinct
  have methods := List.Nodup.of_map snakeCase bodies
  have symbols :
      ((pairs.map fun pair => pair.boundary.name).map (symbolName config.className)).Nodup :=
    List.Nodup.map_on (fun method listed other listed' same =>
      symbolName_inj readable (readableMethod method listed) (readableMethod other listed') same)
      methods
  have lower := startsLower_body valid derived distinct
  have apart : ∀ pair ∈ pairs, ∀ other, startsLower other = false →
      snakeCase pair.boundary.name ≠ other := by
    rintro pair listed _ upper rfl
    rw [lower pair listed] at upper
    contradiction
  rw [List.map_map] at bodies symbols
  exact ⟨methods, symbols, bodies,
    fun pair listed other _ =>
      apart pair listed _ (startsLower_symbolName config.className other.boundary.name),
    fun pair listed => ⟨apart pair listed _ rfl, apart pair listed _ rfl⟩⟩

end Pairs

/-! ### The generated file -/

section File

variable {className : String} {pairs : List Pair} {written : List Trampoline}

/-- What the file for some pairs defines. -/
def declared (className : String) (pairs : List Pair) : List (ItemKind × Identifier) :=
  (.constant, ⟨"JNI_CLASS", false⟩) :: (.constant, ⟨"NATIVE_METHODS", false⟩)
    :: pairs.flatMap fun pair =>
      [(.function, ⟨snakeCase pair.boundary.name, false⟩),
        (.entryPoint, ⟨pair.symbol className, false⟩)]

theorem flatMap_written (all : List.Forall₂ (Written className) pairs written)
    (bodies : ∀ pair ∈ pairs, Identifier.ofText (snakeCase pair.boundary.name) =
      .ok ⟨snakeCase pair.boundary.name, false⟩) :
    (written.flatMap fun trampoline =>
        [(ItemKind.function, trampoline.bodyName), (.entryPoint, trampoline.symbol)]) =
      pairs.flatMap fun pair =>
        [(.function, ⟨snakeCase pair.boundary.name, false⟩),
          (.entryPoint, ⟨pair.symbol className, false⟩)] := by
  induction all with
  | nil => rfl
  | cons first _ ih =>
    rw [List.forall_mem_cons] at bodies
    have body := Except.ok.inj (bodies.1.symm.trans first.bodyName_eq)
    rw [List.flatMap_cons, List.flatMap_cons, ih bodies.2, first.symbol_eq, body]

theorem definitions_file (all : List.Forall₂ (Written className) pairs written)
    (bodies : ∀ pair ∈ pairs, Identifier.ofText (snakeCase pair.boundary.name) =
      .ok ⟨snakeCase pair.boundary.name, false⟩) :
    definitions (registrationTable className pairs :: written.map Trampoline.source).flatten =
      declared className pairs := by
  rw [definitions, List.flatten_cons, items_registrationTable, List.map_cons, List.map_cons,
    items_trampolines, flatMap_written all bodies, declared]

/-- The names of the bodies and the entry points of some pairs. -/
def functionNames (className : String) (pairs : List Pair) : List String :=
  pairs.flatMap fun pair => [snakeCase pair.boundary.name, pair.symbol className]

theorem nodup_functionNames (apart : NamesApart className pairs) :
    (functionNames className pairs).Nodup := by
  have differ := (List.pairwise_map.mp apart.bodies_nodup).and
    (List.pairwise_map.mp apart.symbols_nodup)
  rw [functionNames, List.nodup_flatMap]
  constructor
  · intro pair listed
    simp [apart.body_ne_symbol pair listed pair listed]
  · refine differ.imp_of_mem fun {pair other} listed listed' differ => ?_
    have crossed := apart.body_ne_symbol pair listed other listed'
    have crossed' := apart.body_ne_symbol other listed' pair listed
    simp [Function.onFun, differ.1.symm, differ.2.symm, crossed', crossed.symm]

theorem functionName_ne_constant (apart : NamesApart className pairs) :
    ∀ name ∈ functionNames className pairs, name ≠ "JNI_CLASS" ∧ name ≠ "NATIVE_METHODS" := by
  intro name listed
  obtain ⟨pair, paired, either⟩ := List.mem_flatMap.mp listed
  rw [List.mem_pair] at either
  rcases either with rfl | rfl
  · exact apart.body_ne_constant pair paired
  · exact symbolName_ne_constant className pair.boundary.name

/-- No name is declared twice. -/
theorem nodup_declared (apart : NamesApart className pairs) :
    ((declared className pairs).map Prod.snd).Nodup := by
  have names : (declared className pairs).map Prod.snd =
      ("JNI_CLASS" :: "NATIVE_METHODS" :: functionNames className pairs).map (⟨·, false⟩) := by
    rw [declared, functionNames, List.map_cons, List.map_cons, List.map_cons, List.map_cons,
      List.map_flatMap, List.map_flatMap]
    rfl
  have constants := functionName_ne_constant apart
  rw [names]
  refine List.Nodup.map_on (fun name _ other _ same => (Identifier.mk.inj same).1) ?_
  rw [List.nodup_cons, List.nodup_cons, List.mem_cons, not_or]
  exact ⟨⟨by decide, fun listed => (constants _ listed).1 rfl⟩,
    fun listed => (constants _ listed).2 rfl, nodup_functionNames apart⟩

theorem entryPoint_declared {pair : Pair} (listed : pair ∈ pairs) :
    (ItemKind.entryPoint, ⟨pair.symbol className, false⟩) ∈ declared className pairs := by
  refine List.mem_cons_of_mem _ (List.mem_cons_of_mem _ (List.mem_flatMap.mpr ⟨pair, listed, ?_⟩))
  exact List.mem_cons_of_mem _ List.mem_cons_self

end File

/-- A file that has each of some pairs once, with its native method, its descriptor and its
entry point, and that defines no name twice. -/
structure DefinesOnce (className : String) (pairs : List Pair) (source : Source) : Prop where
  definitions_eq : definitions source = declared className pairs
  names_nodup : ((definitions source).map Prod.snd).Nodup
  listed_eq : listedMethods source = pairs.map fun pair =>
    ("\"" ++ pair.boundary.name ++ "\"", "\"" ++ pair.descriptor ++ "\"")
  entryPoint_once : ∀ pair ∈ pairs,
    (definitions source).count (.entryPoint, ⟨pair.symbol className, false⟩) = 1

section File

variable {tools : Toolkit} {registry writer : Registry} {config : Config}
  (valid : config.validate tools = .ok ()) {operations : List Operation} {pairs : List Pair}
  (derived : List.Forall₂ (Derived registry config.methodStart) operations pairs)
  (distinct : DistinctlyNamed operations)

include valid derived distinct

theorem definesOnce_of_written (apart : NamesApart config.className pairs)
    {written : List Trampoline} (all : List.Forall₂ (Written config.className) pairs written) :
    DefinesOnce config.className pairs
      (registrationTable config.className pairs :: written.map Trampoline.source).flatten := by
  have definitions := definitions_file all (ofText_body valid derived distinct)
  have nodup := nodup_declared apart
  constructor
  · exact definitions
  · rw [definitions]
    exact nodup
  · rw [List.flatten_cons, listedMethods_eq, literals_of_derived valid derived distinct]
  · intro pair listed
    rw [definitions]
    exact List.count_eq_one_of_mem (List.Nodup.of_map _ nodup) (entryPoint_declared listed)

/-- What the registry of the derivation has is enough to write the pairs. -/
theorem writingHalt?_eq_none
    (accepted : operations.findSome? (·.derivationFault? registry) = none) :
    pairs.findSome? (·.writingHalt? registry) = none := by
  rw [List.findSome?_eq_none_iff] at accepted ⊢
  intro pair listed
  obtain ⟨operation, ofOperation, made⟩ := exists_derived derived pair listed
  have registered := accepted operation ofOperation
  rw [Operation.derivationFault?, Option.map_eq_none_iff] at registered
  have converted : registry.missing? pair.converted = none := by
    apply Pair.missing?_converted
    rw [made.logical_eq]
    exact registered
  rw [Pair.writingHalt?, converted, ofText_body valid derived distinct pair listed]

end File

/-- A generated file defines no name twice. Under a valid configuration, operations with
different names derive to pairs with different native methods, symbols and bodies; the
registry that derives them is enough to write them; and whatever registry they are written
with, the file is the table and the trampolines of the pairs, and has each pair once. The
operations of the catalog are named like that. -/
theorem generated_names_apart :
    DistinctlyNamed Operation.catalog ∧
      ∀ (tools : Toolkit) (config : Config), config.validate tools = .ok () →
      ∀ operations : List Operation, DistinctlyNamed operations →
        (∃ pairs, Operation.pairs operations config.methodStart .standard = .ok pairs) ∧
        ∀ registry pairs, Operation.pairs operations config.methodStart registry = .ok pairs →
          NamesApart config.className pairs ∧
          (∃ text, render tools config registry pairs = .ok text) ∧
          ∀ writer text, render tools config writer pairs = .ok text →
            ∃ operations runtime written, config.operations tools = .ok operations ∧
              config.runtime tools = .ok runtime ∧
              trampolines writer config.className operations runtime pairs = .ok written ∧
              let items := registrationTable config.className pairs
                :: written.map Trampoline.source
              IsFile tools config.header? items text ∧
                DefinesOnce config.className pairs items.flatten := by
  refine ⟨⟨by decide +kernel, by decide +kernel⟩, fun tools config valid operations distinct =>
    ⟨?_, ?_⟩⟩
  · obtain ⟨pairs, -, made⟩ := pairs_standard config.methodStart operations
    exact ⟨pairs, made⟩
  intro registry pairs made
  rcases pairs_cases registry config.methodStart operations with
    ⟨fault, -, refused⟩ | ⟨accepted, others, derived, others_made⟩
  · rw [refused] at made
    contradiction
  cases others_made.symm.trans made
  have wellFormed := wellFormed_of_derived derived fun operation listed =>
    ⟨_, ofText_operationName (distinct.named operation listed)⟩
  have apart := namesApart_of_derived valid derived distinct
  refine ⟨apart, ?_, fun writer text rendered => ?_⟩
  · rcases render_cases valid registry wellFormed with ⟨halt, first, -⟩ | ⟨-, _, -, rendered⟩
    · rw [writingHalt?_eq_none valid derived distinct accepted] at first
      contradiction
    · exact ⟨_, rendered⟩
  · obtain ⟨operations, runtime, written, operationsPath, runtimePath, written_eq, rfl⟩ :=
      parts_of_render rendered
    refine ⟨operations, runtime, written, operationsPath, runtimePath, written_eq,
      isFile_fileText _ _, ?_⟩
    rcases trampolines_cases writer config.className operations runtime wellFormed with
      ⟨halt, -, halted⟩ | ⟨-, written', all, written'_eq⟩
    · rw [halted] at written_eq
      contradiction
    · cases written'_eq.symm.trans written_eq
      exact definesOnce_of_written valid derived distinct apart all

theorem generated_names_apart_catalog :
    ∃ pairs, Operation.pairs Operation.catalog "native" .standard = .ok pairs ∧
      NamesApart Config.standard.className pairs ∧
      ∃ items text, render .plain .standard .standard pairs = .ok text ∧
        IsFile .plain Config.standard.header? items text ∧
        DefinesOnce Config.standard.className pairs items.flatten := by
  obtain ⟨⟨pairs, made⟩, files⟩ :=
    generated_names_apart.2 .plain .standard validate_standard _ generated_names_apart.1
  obtain ⟨apart, ⟨text, rendered⟩, once⟩ := files .standard pairs made
  obtain ⟨_, _, _, -, -, -, file, defines⟩ := once .standard text rendered
  exact ⟨pairs, made, apart, _, text, rendered, file, defines⟩

end SqliteBridge.Binding
