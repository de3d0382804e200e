import SqliteBridge.Binding.Source
import SqliteBridge.Json.Composite

/-! The types that a native method can have. Each has a code in method descriptors
and spellings in the generated source. -/
namespace SqliteBridge.Binding

inductive BoundaryType where
  | int
  | long
  | double
  | boolean
  | string
  | byteArray
  | void
deriving DecidableEq, Inhabited

namespace BoundaryType

def all : List BoundaryType := [int, long, double, boolean, string, byteArray, void]

/-- The code of the type in a method descriptor. -/
def descriptor : BoundaryType → String
  | int => "I"
  | long => "J"
  | double => "D"
  | boolean => "Z"
  | string => "Ljava/lang/String;"
  | byteArray => "[B"
  | void => "V"

/-- The name of the type in the native interface. -/
def nativeName : BoundaryType → String
  | int => "jint"
  | long => "jlong"
  | double => "jdouble"
  | boolean => "jboolean"
  | string => "jstring"
  | byteArray => "jbyteArray"
  | void => "void"

def isVoid : BoundaryType → Bool
  | void => true
  | _ => false

def variantName : BoundaryType → String
  | int => "Int"
  | long => "Long"
  | double => "Double"
  | boolean => "Boolean"
  | string => "String"
  | byteArray => "ByteArray"
  | void => "Void"

def readJson : Json.Reader BoundaryType :=
  Json.Variant.read (all.map fun type => .bare type.variantName type)

def writeJson (type : BoundaryType) : List Char := Json.writeString type.variantName

/-- The type in the signature of an exported function. -/
def exportedSource : BoundaryType → Source
  | void => [Source.parenthesized []]
  | type => Source.words ["::", "jni", "::", "sys", "::", type.nativeName]

/-- The type in a body that is generic over the boundary. -/
def bodySource : BoundaryType → Source
  | string => Source.words ["B", "::", "Str"]
  | byteArray => Source.words ["B", "::", "Bytes"]
  | type => type.exportedSource

/-- The value that is returned when a call throws. -/
def defaultSource : BoundaryType → Source
  | int => [.literal "0"]
  | long => [.literal "0"]
  | double => [.literal "0.0"]
  | boolean => Source.words ["::", "jni", "::", "sys", "::", "JNI_FALSE"]
  | string => Source.words ["B", "::", "null_string"] ++ [Source.parenthesized []]
  | byteArray => Source.words ["B", "::", "null_bytes"] ++ [Source.parenthesized []]
  | void => [Source.parenthesized []]

end BoundaryType

end SqliteBridge.Binding
