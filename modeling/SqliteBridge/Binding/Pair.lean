import SqliteBridge.Binding.Naming
import SqliteBridge.Binding.Registry
import SqliteBridge.Json.Reader

/-! Pairs: an operation together with the native method that exposes it. -/
namespace SqliteBridge.Binding

/-- Why a generation run stops with an answer. -/
inductive Fault where
  /-- An operation uses a type that the registry does not have. -/
  | unregistered (type : LogicalType) (operation : String)
  | invalidConfig (message : String)
  /-- A file cannot be read or written. -/
  | file (message : String)
  /-- The configuration is not the JSON that it should be. -/
  | json (fault : Json.Fault)
deriving DecidableEq

/-- How a generation run ends without source. -/
inductive Halt where
  | refused (fault : Fault)
  | aborted (message : String)
deriving DecidableEq

namespace Fault

/-- The text of the cause that the fault wraps. -/
def sourceText? : Fault → Option String
  | file message => some message
  | _ => none

def text : Fault → String
  | unregistered type operation =>
    s!"no type descriptor registered for \x60{type.spelling}\x60 (used by \x60{operation}\x60)"
  | invalidConfig message => "invalid generator configuration: " ++ message
  | file message => "I/O error: " ++ message
  | json (.data message) => "invalid configuration JSON: " ++ message
  | json _ => "invalid configuration JSON: "

end Fault

structure Signature (α : Type) where
  name : String
  parameters : List α
  result : α
deriving DecidableEq

/-- The descriptor of a method: the codes of its parameters between parentheses, then
that of its result. -/
def methodDescriptor (parameters : List BoundaryType) (result : BoundaryType) : String :=
  "(" ++ String.join (parameters.map BoundaryType.descriptor) ++ ")" ++ result.descriptor

structure Pair where
  logical : Signature LogicalType
  boundary : Signature BoundaryType
  descriptor : String
  /-- Whether the operation can fail. -/
  fallible : Bool
deriving DecidableEq

namespace Pair

/-- The boundary type of a logical type that `operation` uses. -/
def boundaryType (registry : Registry) (operation : String) (type : LogicalType) :
    Except Fault BoundaryType :=
  match registry.find? type with
  | some entry => .ok entry.boundary
  | none => .error (.unregistered type operation)

/-- The boundary types of types in order; the first unregistered one is a fault. -/
def boundaryTypes (registry : Registry) (operation : String) :
    List LogicalType → Except Fault (List BoundaryType)
  | [] => .ok []
  | type :: rest => do
    let boundary ← boundaryType registry operation type
    let more ← boundaryTypes registry operation rest
    .ok (boundary :: more)

/-- The pair of an operation and a native method called `methodName`. -/
def derive (registry : Registry) (logical : Signature LogicalType) (methodName : String)
    (fallible : Bool) : Except Fault Pair := do
  let parameters ← boundaryTypes registry logical.name logical.parameters
  let result ← boundaryType registry logical.name logical.result
  .ok ⟨logical, ⟨methodName, parameters, result⟩, methodDescriptor parameters result, fallible⟩

/-- The exported symbol of the native method on a class. -/
def symbol (pair : Pair) (className : String) : String := symbolName className pair.boundary.name

end Pair

end SqliteBridge.Binding
