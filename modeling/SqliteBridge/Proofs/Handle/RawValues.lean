import Mathlib.Data.Set.Function
import SqliteBridge.Proofs.Handle.Packing

/-! Packing is exact: the two parts of a token share no bit and leave the sign alone, so they are
read back as they were packed. The way back is exact as well, and for more raw values than a table
can issue: those of generation zero and those with the largest low half are accepted too, and
packing their parts gives the same raw value. -/
namespace SqliteBridge.Handle.Token

/-- The slots that a table can have, each in the generations that it can reach. -/
def issuable : Set (Nat × Nat) :=
  {parts | parts.1 < maxSlots ∧ 1 ≤ parts.2 ∧ parts.2 ≤ maxGeneration}

/-- The raw values of tokens that a table can issue. -/
def issuableRaw : Set Int64 :=
  {raw | 0x100000000 ≤ raw.toInt ∧ 1 ≤ lowHalf raw ∧ lowHalf raw ≤ maxSlots}

/-! ### The parts of a raw value above zero -/

theorem lowHalf_lt (raw : Int64) : lowHalf raw < 0x100000000 := (raw.toBitVec.setWidth 32).isLt

section Positive

variable {token : Token}

theorem bits_of_pos (positive : 0 < token.raw) : (token.bits : Int) = token.raw.toInt := by
  have positive : 0 < token.raw.toInt := Int64.lt_iff_toInt_lt.mp positive
  have range : token.bits < 0x10000000000000000 := token.raw.toBitVec.isLt
  rw [toInt_raw] at positive ⊢
  split at positive
  · rw [if_pos ‹_›]
  · omega

theorem generation_le_of_pos (positive : 0 < token.raw) : token.generation ≤ maxGeneration := by
  have bits := bits_of_pos positive
  have range := token.raw.toInt_lt
  rw [generation_eq]
  change _ ≤ 0x7fffffff
  omega

/-- The subtraction that reads the index does not go below zero. -/
theorem index_add_one (indexed : lowHalf token.raw ≠ 0) : token.index + 1 = lowHalf token.raw := by
  have range := lowHalf_lt token.raw
  rw [index_eq]
  omega

theorem index_le (indexed : lowHalf token.raw ≠ 0) : token.index ≤ maxSlots := by
  have index := index_add_one indexed
  have range := lowHalf_lt token.raw
  change _ ≤ 0xfffffffe
  omega

theorem pack_of_pos (positive : 0 < token.raw) (indexed : lowHalf token.raw ≠ 0) :
    pack token.index token.generation = token :=
  pack_parts (index_le indexed) (generation_le_of_pos positive)

end Positive

/-! ### Both ways -/

/-- Where the index is below the last that fits and the generation is not zero, a table can have
issued the raw value. -/
theorem parts_issuable {raw : Int64} (issued : raw ∈ issuableRaw) :
    (index ⟨raw⟩, generation ⟨raw⟩) ∈ issuable := by
  obtain ⟨large, indexed, inRange⟩ := issued
  have positive : 0 < raw := by
    rw [Int64.lt_iff_toInt_lt]
    change 0 < _
    omega
  -- The three parts of `issuable` are bounds on the low half, and on the number from both sides.
  have index : index ⟨raw⟩ + 1 = lowHalf raw := index_add_one (Nat.ne_of_gt indexed)
  have bits : (bits ⟨raw⟩ : Int) = raw.toInt := bits_of_pos positive
  have generation := generation_eq ⟨raw⟩
  exact ⟨show _ < _ by omega, show _ ≤ _ by omega, generation_le_of_pos positive⟩

theorem raw_issuable {parts : Nat × Nat} (member : parts ∈ issuable) :
    (pack parts.1 parts.2).raw ∈ issuableRaw := by
  obtain ⟨inRange, positive, bounded⟩ := member
  refine ⟨?_, ?_, ?_⟩
  · rw [toInt_pack inRange bounded]
    omega
  all_goals
    rw [lowHalf_pack inRange bounded]
    omega

/-- Each raw value that a table can issue packs the parts of one slot in one generation. -/
theorem pack_bijOn :
    Set.BijOn (fun parts : Nat × Nat => (pack parts.1 parts.2).raw) issuable issuableRaw := by
  have inverse : Set.InvOn (fun raw => (index ⟨raw⟩, generation ⟨raw⟩))
      (fun parts : Nat × Nat => (pack parts.1 parts.2).raw) issuable issuableRaw := by
    constructor
    · rintro parts ⟨inRange, -, bounded⟩
      exact Prod.ext (index_pack inRange bounded) (generation_pack inRange bounded)
    · intro raw issued
      obtain ⟨inRange, -, bounded⟩ := parts_issuable issued
      exact congrArg Token.raw (pack_parts (Nat.le_of_lt inRange) bounded)
  exact inverse.bijOn (fun _ member => raw_issuable member) (fun _ issued => parts_issuable issued)

/-- A slot in one of its generations packs into a positive number, the generation above the 32 bits
of the index, from which both are read back; no two of them share one. A raw value stands for no
token exactly when it is not positive or has no index in its low half; for any other, the index is
read without going below zero, and packing the parts gives the raw value again. -/
theorem packing_exact :
    (∀ index generation, (index, generation) ∈ issuable →
      0 < (pack index generation).raw ∧
        (pack index generation).raw.toInt = generation * 0x100000000 + (index + 1) ∧
        ofRaw? (pack index generation).raw = some (pack index generation) ∧
        (pack index generation).index = index ∧
        (pack index generation).generation = generation) ∧
    Set.BijOn (fun parts : Nat × Nat => (pack parts.1 parts.2).raw) issuable issuableRaw ∧
    ∀ raw, (ofRaw? raw = none ↔ raw ≤ 0 ∨ lowHalf raw = 0) ∧
      ∀ token, ofRaw? raw = some token →
        token.raw = raw ∧ token.index + 1 = lowHalf raw ∧
          (pack token.index token.generation).raw = raw := by
  refine ⟨?_, pack_bijOn, fun raw => ⟨ofRaw?_eq_none_iff raw, ?_⟩⟩
  · rintro index generation ⟨inRange, -, bounded⟩
    exact ⟨pack_pos inRange bounded, toInt_pack inRange bounded, ofRaw?_pack inRange bounded,
      index_pack inRange bounded, generation_pack inRange bounded⟩
  · intro token read
    obtain ⟨rfl, positive, indexed⟩ := ofRaw?_eq_some_iff.mp read
    exact ⟨rfl, index_add_one indexed, congrArg Token.raw (pack_of_pos positive indexed)⟩

/-- The last slot in its last generation, and the raw value after it: no table issues that one, but
it is accepted. -/
theorem packing_exact_last :
    (0xfffffffd, 0x7fffffff) ∈ issuable ∧
      (pack 0xfffffffd 0x7fffffff).raw.toInt = 0x7ffffffffffffffe ∧
      ofRaw? 0x7fffffffffffffff = some ⟨0x7fffffffffffffff⟩ ∧
      0x7fffffffffffffff ∉ issuableRaw ∧
      (pack (index ⟨0x7fffffffffffffff⟩) (generation ⟨0x7fffffffffffffff⟩)).raw =
        0x7fffffffffffffff := by
  have last : (0xfffffffd, 0x7fffffff) ∈ issuable := ⟨by decide, by decide, by decide⟩
  have read : ofRaw? 0x7fffffffffffffff = some ⟨0x7fffffffffffffff⟩ := by decide
  have unissued : 0x7fffffffffffffff ∉ issuableRaw := fun issued => absurd issued.2.2 (by decide)
  exact ⟨last, (packing_exact.1 _ _ last).2.1, read, unissued,
    ((packing_exact.2.2 _).2 _ read).2.2⟩

end SqliteBridge.Handle.Token
