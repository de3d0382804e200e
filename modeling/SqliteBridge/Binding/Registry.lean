import SqliteBridge.Binding.BoundaryType
import SqliteBridge.Binding.LogicalType
import SqliteBridge.Binding.Path

/-! The registry of types: for each logical type its boundary type and the
conversions between them. A type without a conversion in some direction has the same
form on both sides, and its values pass through. -/
namespace SqliteBridge.Binding

inductive Direction where
  | fromBoundary
  | toBoundary
deriving DecidableEq

/-- The expression that converts a value. Each kind names a function of the runtime. -/
inductive Converter where
  /-- `marshal::f(x)` -/
  | direct (function : String)
  /-- `marshal::f(env, &x)?` -/
  | borrowing (function : String)
  /-- `marshal::f(env, x.as_deref())?` -/
  | dereferencing (function : String)
  /-- `handles::handle_from_jni::<handles::T>(x)` -/
  | resolving (target : String)
  /-- `handles::handle_to_jni(&x)?` -/
  | issuing
deriving DecidableEq

/-- What conversions refer to: the environment and the path of the runtime. -/
structure ConversionContext where
  env : Identifier
  runtime : Path

namespace Converter

def inModule (context : ConversionContext) (module function : String) : Source :=
  context.runtime.source ++ Source.words ["::", module, "::", function]

/-- The expression for the value that `value` names. -/
def source (context : ConversionContext) (value : Identifier) : Converter → Source
  | direct function =>
    inModule context "marshal" function ++ [Source.parenthesized [.identifier value]]
  | borrowing function =>
    inModule context "marshal" function
      ++ [Source.parenthesized
          [.identifier context.env, Source.symbol ',', Source.symbol '&', .identifier value],
        Source.symbol '?']
  | dereferencing function =>
    inModule context "marshal" function
      ++ [Source.parenthesized
          [.identifier context.env, Source.symbol ',', .identifier value, Source.symbol '.',
            Source.name "as_deref", Source.parenthesized []],
        Source.symbol '?']
  | resolving target =>
    inModule context "handles" "handle_from_jni" ++ Source.words ["::", "<"]
      ++ inModule context "handles" target
      ++ [Source.symbol '>', Source.parenthesized [.identifier value]]
  | issuing =>
    inModule context "handles" "handle_to_jni"
      ++ [Source.parenthesized [Source.symbol '&', .identifier value], Source.symbol '?']

end Converter

structure TypeEntry where
  logical : LogicalType
  boundary : BoundaryType
  fromBoundary? : Option Converter
  toBoundary? : Option Converter
  /-- Whether the operation takes a reference to the converted argument. -/
  byReference : Bool
deriving DecidableEq

namespace TypeEntry

def converter? (entry : TypeEntry) : Direction → Option Converter
  | .fromBoundary => entry.fromBoundary?
  | .toBoundary => entry.toBoundary?

/-- The entry of a type whose values pass through. -/
def plain (logical : LogicalType) (boundary : BoundaryType) : TypeEntry :=
  ⟨logical, boundary, none, none, false⟩

/-- The entry as a diagnostic shows it. -/
def diagnostic (entry : TypeEntry) : String :=
  s!"TypeDescriptor \x7b logical: {entry.logical.variantName}, "
    ++ s!"boundary: {entry.boundary.variantName}, "
    ++ s!"from_boundary: {entry.fromBoundary?.isSome}, to_boundary: {entry.toBoundary?.isSome}, "
    ++ s!"pass_by_ref: {entry.byReference} \x7d"

end TypeEntry

/-- The statement that a conversion adds, and the name of the converted value. -/
structure Conversion where
  statement : Source
  bound : Identifier

structure Registry where
  entries : List TypeEntry
deriving DecidableEq

namespace Registry

/-- Every type that the operations of the library need. -/
def standard : Registry := ⟨[
  .plain .int .int,
  .plain .long .long,
  .plain .double .double,
  ⟨.boolean, .boolean, some (.direct "bool_from_jni"), some (.direct "bool_to_jni"), false⟩,
  ⟨.string, .string, some (.borrowing "string_from_jni"), some (.borrowing "string_to_jni"), true⟩,
  ⟨.nullableString, .string, some (.borrowing "nullable_string_from_jni"),
    some (.dereferencing "nullable_string_to_jni"), false⟩,
  ⟨.byteArray, .byteArray, some (.borrowing "bytes_from_jni"), some (.borrowing "bytes_to_jni"),
    true⟩,
  ⟨.nullableByteArray, .byteArray, some (.borrowing "nullable_bytes_from_jni"),
    some (.dereferencing "nullable_bytes_to_jni"), false⟩,
  ⟨.database, .long, some (.resolving "DbRef"), some .issuing, true⟩,
  ⟨.statement, .long, some (.resolving "StmtRef"), some .issuing, true⟩,
  ⟨.resultCode, .int, some (.direct "result_code_from_jni"), some (.direct "result_code_to_jni"),
    false⟩,
  ⟨.columnType, .int, some (.direct "column_type_from_jni"), some (.direct "column_type_to_jni"),
    false⟩,
  .plain .unit .void]⟩

/-- The registry with a type removed. -/
def without (registry : Registry) (type : LogicalType) : Registry :=
  ⟨registry.entries.filter fun entry => entry.logical != type⟩

def find? (registry : Registry) (type : LogicalType) : Option TypeEntry :=
  registry.entries.find? fun entry => entry.logical == type

def isRegistered (registry : Registry) (type : LogicalType) : Bool :=
  (registry.find? type).isSome

def hasConversion (registry : Registry) (type : LogicalType) (direction : Direction) : Bool :=
  match registry.find? type with
  | some entry => (entry.converter? direction).isSome
  | none => false

/-- The name that a converted value is bound to. -/
def localName (value : Identifier) : Identifier := ⟨"local_" ++ value.name, false⟩

/-- The conversion of `value`; only an unregistered type has none. A value that
passes through keeps its name and needs no statement. -/
def convert (registry : Registry) (type : LogicalType) (direction : Direction)
    (value : Identifier) (context : ConversionContext) : Option Conversion :=
  match registry.find? type with
  | none => none
  | some entry =>
    match entry.converter? direction with
    | some converter =>
      let bound := localName value
      some ⟨Source.word "let" ++ .identifier bound :: Source.symbol '='
        :: converter.source context value ++ [Source.symbol ';'], bound⟩
    | none => some ⟨[], value⟩

end Registry

end SqliteBridge.Binding
