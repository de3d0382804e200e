/-! Bytes as text. Bytes that are not well formed are read with one replacement
character for each longest start of a well-formed sequence, or for a byte that can
start none. -/
namespace SqliteBridge.Text

def replacement : Char := '\ufffd'

def within (low high byte : UInt8) : Bool := decide (low ≤ byte) && decide (byte ≤ high)

def isContinuation (byte : UInt8) : Bool := within 0x80 0xbf byte

/-- The second bytes that may follow a first byte of three. -/
def secondOfThree (first second : UInt8) : Bool :=
  if first = 0xe0 then within 0xa0 0xbf second
  else if first = 0xed then within 0x80 0x9f second
  else isContinuation second

/-- The second bytes that may follow a first byte of four. -/
def secondOfFour (first second : UInt8) : Bool :=
  if first = 0xf0 then within 0x90 0xbf second
  else if first = 0xf4 then within 0x80 0x8f second
  else isContinuation second

def payload (byte : UInt8) : Nat := byte.toNat % 64

/-- The first character of a byte sequence, and how many bytes beyond the first it
takes. A start of a sequence that the next byte does not continue is replaced. -/
def firstCharacter (a : UInt8) (rest : List UInt8) : Char × Nat :=
  if a < 0x80 then (Char.ofNat a.toNat, 0)
  else if within 0xc2 0xdf a then
    match rest with
    | b :: _ =>
      if isContinuation b then (Char.ofNat ((a.toNat - 0xc0) * 64 + payload b), 1)
      else (replacement, 0)
    | [] => (replacement, 0)
  else if within 0xe0 0xef a then
    match rest with
    | b :: more =>
      if secondOfThree a b then
        match more with
        | c :: _ =>
          if isContinuation c then
            (Char.ofNat (((a.toNat - 0xe0) * 64 + payload b) * 64 + payload c), 2)
          else (replacement, 1)
        | [] => (replacement, 1)
      else (replacement, 0)
    | [] => (replacement, 0)
  else if within 0xf0 0xf4 a then
    match rest with
    | b :: more =>
      if secondOfFour a b then
        match more with
        | c :: last =>
          if isContinuation c then
            match last with
            | d :: _ =>
              if isContinuation d then
                (Char.ofNat ((((a.toNat - 0xf0) * 64 + payload b) * 64 + payload c) * 64
                  + payload d), 3)
              else (replacement, 2)
            | [] => (replacement, 2)
          else (replacement, 1)
        | [] => (replacement, 1)
      else (replacement, 0)
    | [] => (replacement, 0)
  else (replacement, 0)

/-- The characters of a byte sequence with replacements. -/
def substitute : List UInt8 → List Char
  | [] => []
  | a :: rest =>
    let (c, taken) := firstCharacter a rest
    c :: substitute (rest.drop taken)
termination_by bytes => bytes.length
decreasing_by simp only [List.length_drop, List.length_cons]; omega

/-- The text of bytes: exactly the text that they encode, where they encode one. -/
def ofBytes (bytes : ByteArray) : String :=
  match String.fromUTF8? bytes with
  | some text => text
  | none => .ofList (substitute bytes.data.toList)

end SqliteBridge.Text
