/-! Byte sequences, the content of blobs and of texts in storage. They are ordered byte
by byte, and a sequence comes after its beginnings. -/
namespace SqliteBridge

/-- One instance decides equality of byte sequences everywhere. -/
instance (priority := 1100) decidableEqBytes : DecidableEq ByteArray :=
  ByteArray.instDecidableEq

def compareBytes : List UInt8 → List UInt8 → Ordering
  | [], [] => .eq
  | [], _ => .lt
  | _, [] => .gt
  | a :: as, b :: bs => (compare a.toNat b.toNat).then (compareBytes as bs)

end SqliteBridge
