import SqliteBridge.Bytes
import SqliteBridge.ColumnType
import SqliteBridge.Json.Composite
import SqliteBridge.ResultCode

/-! Dynamically typed SQL values, as they are bound to parameters and read from
columns. Integers of 32 and of 64 bits are told apart here although they have one
storage class. -/
namespace SqliteBridge

inductive Value where
  | null
  | int (n : Int32)
  | long (n : Int64)
  | double (x : Binary64)
  | text (s : String)
  | blob (bytes : ByteArray)
deriving DecidableEq

namespace Value

instance : Inhabited Value := ⟨null⟩

def isNull : Value → Bool
  | null => true
  | _ => false

/-- The storage class that the value is bound as. -/
def columnType : Value → ColumnType
  | null => .null
  | int _ => .integer
  | long _ => .integer
  | double _ => .float
  | text _ => .text
  | blob _ => .blob

def asInt64? : Value → Option Int64
  | int n => some n.toInt64
  | long n => some n
  | _ => none

def asText? : Value → Option String
  | text s => some s
  | _ => none

def ofBool (b : Bool) : Value := int (if b then 1 else 0)

/-- An absent value is null. -/
def ofOption {α : Type} (embed : α → Value) : Option α → Value
  | some value => embed value
  | none => null

def readJson : Json.Reader Value :=
  Json.Variant.read [
    .bare "Null" null,
    .holding "Int" ((int ∘ Int32.ofInt) <$>
      Json.integer "i32" Int32.minValue.toInt Int32.maxValue.toInt),
    .holding "Long" ((long ∘ Int64.ofInt) <$>
      Json.integer "i64" Int64.minValue.toInt Int64.maxValue.toInt),
    .holding "Double" (double <$> Json.binary64),
    .holding "Text" (text <$> Json.string),
    .holding "Blob" ((fun bytes => blob ⟨(bytes.map fun n => UInt8.ofNat n.toNat).toArray⟩) <$>
      Json.sequence (Json.integer "u8" 0 255))]

def writeJson : Value → List Char
  | null => Json.writeString "Null"
  | int n => Json.Variant.writeHolding "Int" (Json.writeInt n.toInt)
  | long n => Json.Variant.writeHolding "Long" (Json.writeInt n.toInt)
  | double x => Json.Variant.writeHolding "Double" (Json.writeBinary64 x)
  | text s => Json.Variant.writeHolding "Text" (Json.writeString s)
  | blob bytes =>
    Json.Variant.writeHolding "Blob"
      (Json.writeArray (fun byte => Json.writeInt byte.toNat) bytes.data.toList)

end Value

namespace ResultCode

def readJson : Json.Reader ResultCode :=
  (fun n => ⟨Int32.ofInt n⟩) <$> Json.integer "i32" Int32.minValue.toInt Int32.maxValue.toInt

def writeJson (code : ResultCode) : List Char := Json.writeInt code.value.toInt

end ResultCode

namespace ColumnType

def readJson : Json.Reader ColumnType :=
  Json.Variant.read (all.map fun kind => .bare kind.variantName kind)

def writeJson (kind : ColumnType) : List Char := Json.writeString kind.variantName

end ColumnType

end SqliteBridge
