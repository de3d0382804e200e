/-! Tokens: the only form in which an object is visible across the boundary. A
token packs the index of a slot and the generation of that slot into 64 bits.
The low half is the index plus one, so that no token is zero. -/
namespace SqliteBridge.Handle

/-- The largest generation; it keeps the sign bit of a token clear. -/
def maxGeneration : Nat := 0x7fffffff

/-- The largest number of slots; the last index plus one still fits in 32 bits. -/
def maxSlots : Nat := 0xfffffffe

structure Token where
  raw : Int64
deriving DecidableEq, Inhabited

namespace Token

def indexMask : Int64 := 0xffffffff

/-- The token of the slot `index` in its `generation`. -/
def pack (index generation : Nat) : Token :=
  ⟨(Int64.ofNat generation <<< 32) ||| (Int64.ofNat index + 1)⟩

def index (token : Token) : Nat := ((token.raw &&& indexMask) - 1).toUInt64.toNat

def generation (token : Token) : Nat := (token.raw >>> 32).toUInt64.toNat % 0x100000000

/-- The token that a raw value stands for. A value that no table can have issued
has none. -/
def ofRaw? (raw : Int64) : Option Token :=
  if raw ≤ 0 ∨ raw &&& indexMask = 0 then none else some ⟨raw⟩

def text (token : Token) : String := s!"Token({token.index}@{token.generation})"

end Token

end SqliteBridge.Handle
