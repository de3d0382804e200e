import SqliteBridge.Handle.Token

/-! A token as a number: the generation in the high half, the index plus one in the
low half. Every slot of a table and every generation can be read back from the token
that packs them, and no other token has the same index and generation. -/
namespace SqliteBridge.Handle.Token

/-- The raw value without its sign. -/
def bits (token : Token) : Nat := token.raw.toBitVec.toNat

/-- The low 32 bits of a raw value, as a number. -/
def lowHalf (raw : Int64) : Nat := (raw.toBitVec.setWidth 32).toNat

theorem bits_injective {token other : Token} (same : token.bits = other.bits) : token = other := by
  obtain ⟨raw⟩ := token
  obtain ⟨raw'⟩ := other
  have vectors : raw.toBitVec = raw'.toBitVec := BitVec.eq_of_toNat_eq same
  rw [Int64.toBitVec_inj.mp vectors]

theorem lowHalf_raw (token : Token) : lowHalf token.raw = token.bits % 0x100000000 :=
  BitVec.toNat_setWidth ..

theorem toNat_mask (raw : Int64) : (raw &&& indexMask).toBitVec.toNat = lowHalf raw := by
  rw [Int64.toBitVec_and, BitVec.toNat_and, lowHalf, BitVec.toNat_setWidth]
  exact Nat.and_two_pow_sub_one_eq_mod (n := 32) ..

/-- A sign that is set takes the number below zero. -/
theorem toInt_raw (token : Token) :
    token.raw.toInt =
      if token.bits < 0x8000000000000000 then (token.bits : Int)
      else token.bits - 0x10000000000000000 := by
  change token.raw.toBitVec.toInt = _
  rw [BitVec.toInt_eq_toNat_cond, bits]
  split <;> split <;> omega

/-- A token has room for one index more than a table has slots. -/
theorem bits_pack {index generation : Nat} (fits : index ≤ maxSlots)
    (bounded : generation ≤ maxGeneration) :
    (pack index generation).bits = generation * 0x100000000 + (index + 1) := by
  have fits : index ≤ 0xfffffffe := fits
  have bounded : generation ≤ 0x7fffffff := bounded
  have low : (Int64.ofNat index + 1).toBitVec.toNat = index + 1 := by
    simp
    omega
  have high : (Int64.ofNat generation <<< 32).toBitVec.toNat = generation <<< 32 := by
    simp [Nat.shiftLeft_eq]
    omega
  rw [bits, pack, Int64.toBitVec_or, BitVec.toNat_or, high, low,
    ← Nat.shiftLeft_add_eq_or_of_lt (by omega), Nat.shiftLeft_eq]

theorem generation_eq (token : Token) : token.generation = token.bits / 0x100000000 := by
  have bounded := token.raw.toBitVec.isLt
  change (token.raw >>> 32).toBitVec.toNat % 0x100000000 = token.raw.toBitVec.toNat / 0x100000000
  rw [Int64.toBitVec_shiftRight]
  change (token.raw.toBitVec.sshiftRight 32).toNat % _ = _
  simp only [BitVec.sshiftRight, BitVec.toNat_ofInt, Int.shiftRight_eq_div_pow,
    BitVec.toInt_eq_toNat_cond]
  split <;> omega

/-- A low half of zero stands for no index; what is read from it is out of range. -/
theorem index_eq (token : Token) :
    token.index = (lowHalf token.raw + 0xffffffffffffffff) % 0x10000000000000000 := by
  change ((token.raw &&& indexMask) - 1).toBitVec.toNat = _
  rw [Int64.toBitVec_sub, BitVec.toNat_sub, toNat_mask]
  change (2 ^ 64 - 1 + lowHalf token.raw) % 2 ^ 64 = _
  omega

/-! ### Raw values -/

theorem mask_eq_zero_iff (raw : Int64) : raw &&& indexMask = 0 ↔ lowHalf raw = 0 := by
  rw [← Int64.toBitVec_inj, ← BitVec.toNat_inj, toNat_mask]
  rfl

theorem ofRaw?_eq_none_iff (raw : Int64) : ofRaw? raw = none ↔ raw ≤ 0 ∨ lowHalf raw = 0 := by
  simp only [ofRaw?, mask_eq_zero_iff, ite_eq_left_iff, reduceCtorEq, imp_false, Classical.not_not]

/-- A raw value stands for a token if it is positive and has an index in its low half. -/
theorem ofRaw?_eq_some_iff {raw : Int64} {token : Token} :
    ofRaw? raw = some token ↔ token = ⟨raw⟩ ∧ 0 < raw ∧ lowHalf raw ≠ 0 := by
  simp only [ofRaw?, mask_eq_zero_iff]
  split
  · rename_i invalid
    refine ⟨nofun, fun ⟨_, positive, indexed⟩ => absurd invalid ?_⟩
    exact not_or.mpr ⟨Int64.not_le.mpr positive, indexed⟩
  · rename_i valid
    obtain ⟨positive, indexed⟩ := not_or.mp valid
    constructor
    · intro same
      exact ⟨(Option.some.inj same).symm, Int64.not_le.mp positive, indexed⟩
    · rintro ⟨rfl, -, -⟩
      rfl

section Packed

variable {index generation : Nat}

theorem index_pack (inRange : index < maxSlots) (bounded : generation ≤ maxGeneration) :
    (pack index generation).index = index := by
  have inRange' : index < 0xfffffffe := inRange
  rw [index_eq, lowHalf_raw, bits_pack (Nat.le_of_lt inRange) bounded]
  omega

theorem generation_pack (inRange : index < maxSlots) (bounded : generation ≤ maxGeneration) :
    (pack index generation).generation = generation := by
  have inRange' : index < 0xfffffffe := inRange
  rw [generation_eq, bits_pack (Nat.le_of_lt inRange) bounded]
  omega

theorem lowHalf_pack (inRange : index < maxSlots) (bounded : generation ≤ maxGeneration) :
    lowHalf (pack index generation).raw = index + 1 := by
  have inRange' : index < 0xfffffffe := inRange
  rw [lowHalf_raw, bits_pack (Nat.le_of_lt inRange) bounded]
  omega

/-- The parts stand next to each other below the sign. -/
theorem toInt_pack (inRange : index < maxSlots) (bounded : generation ≤ maxGeneration) :
    (pack index generation).raw.toInt = generation * 0x100000000 + (index + 1) := by
  have inRange' : index < 0xfffffffe := inRange
  have bounded' : generation ≤ 0x7fffffff := bounded
  rw [toInt_raw, bits_pack (Nat.le_of_lt inRange) bounded, if_pos (by omega)]
  omega

theorem pack_pos (inRange : index < maxSlots) (bounded : generation ≤ maxGeneration) :
    0 < (pack index generation).raw := by
  rw [Int64.lt_iff_toInt_lt, toInt_pack inRange bounded]
  change 0 < _
  omega

/-- A token that packs the parts of a slot is accepted back as a raw value. -/
theorem ofRaw?_pack (inRange : index < maxSlots) (bounded : generation ≤ maxGeneration) :
    ofRaw? (pack index generation).raw = some (pack index generation) := by
  rw [ofRaw?_eq_some_iff, lowHalf_pack inRange bounded]
  exact ⟨rfl, pack_pos inRange bounded, Nat.succ_ne_zero index⟩

end Packed

/-- A token whose parts fit is the one that packs them. -/
theorem pack_parts {token : Token} (fits : token.index ≤ maxSlots)
    (bounded : token.generation ≤ maxGeneration) :
    pack token.index token.generation = token := by
  have fits' : token.index ≤ 0xfffffffe := fits
  have range := token.raw.toBitVec.isLt
  apply bits_injective
  rw [bits_pack fits bounded, generation_eq]
  rw [index_eq, lowHalf_raw] at fits' ⊢
  simp only [bits] at *
  omega

theorem eq_of_parts {token other : Token} (inRange : token.index < maxSlots)
    (bounded : token.generation ≤ maxGeneration) (sameIndex : other.index = token.index)
    (sameGeneration : other.generation = token.generation) : other = token := by
  have fits := Nat.le_of_lt inRange
  rw [← pack_parts fits bounded, ← sameIndex, ← sameGeneration,
    pack_parts (sameIndex ▸ fits) (sameGeneration ▸ bounded)]

end SqliteBridge.Handle.Token
