import SqliteBridge.Binding.Pair

/-! Trampolines: for each pair a body that is generic over the boundary and an
exported function that forwards to it. The body converts the arguments, calls the
operation and converts the result, and it turns failures into exceptions. -/
namespace SqliteBridge.Binding

/-- A parameter with the conversion of its argument. -/
structure Parameter where
  name : Identifier
  boundary : BoundaryType
  conversion : Conversion
  byReference : Bool

namespace Parameter

/-- The name of the parameter at a position. -/
def nameAt (position : Nat) : Identifier := ⟨s!"p{position}", false⟩

/-- The argument of the operation. -/
def argument (parameter : Parameter) : Source :=
  if parameter.byReference then
    [Source.symbol '&', .identifier parameter.conversion.bound]
  else
    [.identifier parameter.conversion.bound]

def bodyDeclaration (parameter : Parameter) : Source :=
  .identifier parameter.name :: Source.symbol ':' :: parameter.boundary.bodySource

def exportedDeclaration (parameter : Parameter) : Source :=
  .identifier parameter.name :: Source.symbol ':' :: parameter.boundary.exportedSource

/-- The parameters of an operation from a position on. -/
def list (registry : Registry) (context : ConversionContext) (operation : String) :
    (position : Nat) → List (LogicalType × BoundaryType) → Except Fault (List Parameter)
  | _, [] => .ok []
  | position, (logical, boundary) :: rest =>
    match registry.find? logical,
        registry.convert logical .fromBoundary (nameAt position) context with
    | some entry, some conversion => do
      let more ← list registry context operation (position + 1) rest
      .ok (⟨nameAt position, boundary, conversion, entry.byReference⟩ :: more)
    | _, _ => .error (.unregistered logical operation)

end Parameter

/-- What the source of one pair is made of. -/
structure Trampoline where
  parameters : List Parameter
  operation : Identifier
  fallible : Bool
  result : BoundaryType
  /-- The conversion of the result; a void method has none. -/
  resultConversion? : Option Conversion
  bodyName : Identifier
  symbol : Identifier
  operations : Path
  runtime : Path
  methodName : String
  descriptor : String
  operationName : String

namespace Trampoline

def env : Identifier := ⟨"env", false⟩

def callResult : Identifier := ⟨"call_result", false⟩

def refuse {α : Type} : Except Fault α → Except Halt α
  | .ok value => .ok value
  | .error fault => .error (.refused fault)

def identifier (text : String) : Except Halt Identifier :=
  match Identifier.ofText text with
  | .ok identifier => .ok identifier
  | .error message => .error (.aborted message)

/-- The conversion of the result of a pair. -/
def resultConversion (registry : Registry) (context : ConversionContext) (pair : Pair) :
    Except Fault (Option Conversion) :=
  if pair.boundary.result.isVoid then .ok none
  else
    match registry.convert pair.logical.result .toBoundary callResult context with
    | some conversion => .ok (some conversion)
    | none => .error (.unregistered pair.logical.result pair.logical.name)

/-- The trampoline of a pair. Types are looked up in order and names are checked
between them, so that the first offence is the one that is reported. -/
def ofPair (registry : Registry) (className : String) (operations runtime : Path) (pair : Pair) :
    Except Halt Trampoline := do
  let context : ConversionContext := ⟨env, runtime⟩
  let parameters ← refuse (Parameter.list registry context pair.logical.name 0
    (pair.logical.parameters.zip pair.boundary.parameters))
  let operation ← identifier pair.logical.name
  let resultConversion? ← refuse (resultConversion registry context pair)
  let bodyName ← identifier (snakeCase pair.boundary.name)
  let symbol ← identifier (pair.symbol className)
  .ok {
    parameters, operation, resultConversion?, bodyName, symbol, operations, runtime
    fallible := pair.fallible
    result := pair.boundary.result
    methodName := pair.boundary.name
    descriptor := pair.descriptor
    operationName := pair.logical.name }

/-! ### Source -/

/-- An attribute that documents the next item. -/
def doc (text : Tree) : Source :=
  [Source.symbol '#', Source.bracketed [Source.name "doc", Source.symbol '=', text]]

/-- The call of the operation. -/
def call (trampoline : Trampoline) : Source :=
  trampoline.operations.source ++ Source.word "::" ++ .identifier trampoline.operation
    :: Source.parenthesized (Source.commaSeparated (trampoline.parameters.map Parameter.argument))
    :: if trampoline.fallible then [Source.symbol '?'] else []

def okOf (value : Source) : Source := [Source.name "Ok", Source.parenthesized value]

/-- The call and what becomes of its result. -/
def conclusion (trampoline : Trampoline) : Source :=
  match trampoline.resultConversion? with
  | none =>
    trampoline.call ++ Source.symbol ';' :: okOf [Source.parenthesized []]
  | some conversion =>
    Source.word "let" ++ .identifier callResult :: Source.symbol '=' :: trampoline.call
      ++ Source.symbol ';' :: conversion.statement ++ okOf [.identifier conversion.bound]

/-- What the body runs under the conversion of failures. -/
def block (trampoline : Trampoline) : Source :=
  trampoline.parameters.flatMap (fun parameter => parameter.conversion.statement)
    ++ trampoline.conclusion

/-- The result type of a function, which a void one does not write. -/
def arrow (result : BoundaryType) (source : Source) : Source :=
  if result.isVoid then [] else Source.word "->" ++ source

def bodyParameters (trampoline : Trampoline) : Source :=
  Source.words ["env", ":", "&", "mut", "B", ","]
    ++ Source.commaSeparated (trampoline.parameters.map Parameter.bodyDeclaration)

/-- The generic body. -/
def body (trampoline : Trampoline) : Source :=
  doc (Source.string (s!" \x60{trampoline.methodName}\x60 {trampoline.descriptor}: delegates to "
      ++ s!"\x60{trampoline.operationName}\x60."))
    ++ Source.words ["pub", "fn"] ++ .identifier trampoline.bodyName
    :: Source.words ["<", "B", ":"] ++ trampoline.runtime.source
    ++ Source.words ["::", "marshal", "::", "Boundary", ">"]
    ++ Source.parenthesized trampoline.bodyParameters
    :: arrow trampoline.result trampoline.result.bodySource
    ++ [Source.braced (trampoline.runtime.source
      ++ Source.words ["::", "exception", "::", "run_with_jni_exception_conversion"]
      ++ [Source.parenthesized (
        Source.words ["env", ","] ++ trampoline.result.defaultSource
          ++ Source.words [",", "|", "env", "|"] ++ [Source.braced trampoline.block])])]

def exportedParameters (trampoline : Trampoline) : Source :=
  Source.words ["mut", "env", ":", "::", "jni", "::", "JNIEnv", "<"] ++ Source.lifetime "local"
    ++ Source.words [">", ",", "_clazz", ":", "::", "jni", "::", "objects", "::", "JClass", "<"]
    ++ Source.lifetime "local" ++ Source.words [">", ","]
    ++ Source.commaSeparated (trampoline.parameters.map Parameter.exportedDeclaration)

/-- The exported function, which forwards its arguments in order. -/
def exported (trampoline : Trampoline) : Source :=
  doc (Source.string s!" \x60{trampoline.descriptor}\x60")
    ++ [Source.symbol '#', Source.bracketed
      [Source.name "unsafe", Source.parenthesized [Source.name "no_mangle"]]]
    ++ Source.words ["pub", "extern"] ++ Source.string "system" :: Source.word "fn"
    ++ .identifier trampoline.symbol
    :: Source.word "<" ++ Source.lifetime "local" ++ Source.word ">"
    ++ Source.parenthesized trampoline.exportedParameters
    :: arrow trampoline.result trampoline.result.exportedSource
    ++ [Source.braced [.identifier trampoline.bodyName,
      Source.parenthesized (Source.words ["&", "mut", "env", ","]
        ++ Source.commaSeparated
          (trampoline.parameters.map fun parameter => [.identifier parameter.name]))]]

def source (trampoline : Trampoline) : Source := trampoline.body ++ trampoline.exported

end Trampoline

end SqliteBridge.Binding
