import SqliteBridge.Proofs.Session.Parameters

/-! The canonical form of a value. The library has one class of integers, and stores what is not a
number as null. A value therefore comes back with the width of an integer told from its size, and
otherwise as it was: a text with all its characters, a blob with all its bytes, a number with all
its bits. -/
namespace SqliteBridge

theorem Text.ofBytes_toUTF8 (s : String) : Text.ofBytes s.toUTF8 = s := by
  simp only [Text.ofBytes, String.fromUTF8?, String.toUTF8_eq_toByteArray, dif_pos s.isValidUTF8]
  rfl

namespace Value

def FitsInt32 (n : Int64) : Prop :=
  Int32.minValue.toInt ≤ n.toInt ∧ n.toInt ≤ Int32.maxValue.toInt

instance (n : Int64) : Decidable (FitsInt32 n) := inferInstanceAs (Decidable (_ ∧ _))

/-- The form in which a value comes back. -/
def canonical : Value → Value
  | long n => if FitsInt32 n then int n.toInt32 else long n
  | double x => if x.isNaN then null else double x
  | value => value

/-- What a column with this value reads as in the type of its class. In another type it is
converted, and the value alone does not tell the result. -/
def cell? : Value → Reading → Option Cell
  | value, .value => some (.value value)
  | value, .columnType => some (.columnType value.columnType)
  | value, .isNull => some (.isNull value.isNull)
  | int n, .int => some (.int n)
  | value, .long => value.asInt64?.map .long
  | double x, .double => some (.double x)
  | text s, .text => some (.text (some s))
  | null, .text => some (.text none)
  | blob bytes, .blob => some (.blob (if bytes.size = 0 then none else some bytes))
  | null, .blob => some (.blob none)
  | _, _ => none

theorem toInt64_toInt32_eq_iff (n : Int64) : n.toInt32.toInt64 = n ↔ FitsInt32 n := by
  have low : Int32.minValue.toInt = -2147483648 := rfl
  have high : Int32.maxValue.toInt = 2147483647 := rfl
  rw [← Int64.toInt_inj, Int32.toInt_toInt64, Int64.toInt_toInt32, FitsInt32, low, high,
    Int.bmod_def]
  omega

end Value

namespace Native.Datum

/-- What the library stores of a datum. -/
def stored : Datum → Datum
  | real x => if x.isNaN then null else real x
  | datum => datum

/-- The storage class. -/
def columnType : Datum → ColumnType
  | null => .null
  | integer _ => .integer
  | real _ => .float
  | text _ => .text
  | blob _ => .blob

/-- The value of a column with the datum. -/
def toValue : Datum → Value
  | null => .null
  | integer n => Session.integerValue n
  | real x => .double x
  | text bytes => .text (Text.ofBytes bytes)
  | blob bytes => .blob bytes

/-- Whether a reading takes the datum as it is, without a conversion. -/
def suits : Datum → Reading → Bool
  | _, .columnType | _, .isNull | _, .value => true
  | integer _, .int | integer _, .long => true
  | real _, .double => true
  | text _, .text | null, .text => true
  | blob _, .blob | null, .blob => true
  | _, _ => false

/-- The text of a column. Null has none. -/
def text? : Datum → Option String
  | text bytes => some (Text.ofBytes bytes)
  | _ => none

/-- The bytes of a column. Null and the empty blob have none. -/
def bytes? : Datum → Option ByteArray
  | blob bytes => if bytes.size = 0 then none else some bytes
  | _ => none

theorem getD_bytes? (bytes : ByteArray) : (blob bytes).bytes?.getD .empty = bytes := by
  simp only [bytes?]
  split
  · rename_i isEmpty
    exact (ByteArray.size_eq_zero_iff.mp isEmpty).symm
  · rfl

/-- What a column that is read without a conversion reads as. -/
def cell (datum : Datum) : Reading → Cell
  | .columnType => .columnType datum.columnType
  | .isNull => .isNull (datum.columnType = .null)
  | .int =>
    match datum with
    | integer n => .int n.toInt32
    | _ => .int 0
  | .long =>
    match datum with
    | integer n => .long n
    | _ => .long 0
  | .double =>
    match datum with
    | real x => .double x
    | _ => .double (.zero false)
  | .text => .text datum.text?
  | .blob => .blob datum.bytes?
  | .value => .value datum.toValue

theorem toValue_stored (v : Value) : v.datum.stored.toValue = v.canonical := by
  cases v with
  | null | blob => rfl
  | int n =>
    simp only [Value.datum, stored, toValue, Session.integerValue, Value.canonical,
      Int32.toInt32_toInt64, if_true]
  | long n =>
    simp only [Value.datum, stored, toValue, Session.integerValue, Value.canonical,
      Value.toInt64_toInt32_eq_iff]
  | double x =>
    simp only [Value.datum, stored, Value.canonical]
    split <;> rfl
  | text s => exact congrArg Value.text (Text.ofBytes_toUTF8 s)

theorem integerValue_cases (n : Int64) :
    Session.integerValue n = .int n.toInt32 ∧ n.toInt32.toInt64 = n ∨
      Session.integerValue n = .long n := by
  by_cases fits : n.toInt32.toInt64 = n
  · exact .inl ⟨if_pos fits, fits⟩
  · exact .inr (if_neg fits)

theorem columnType_toValue (datum : Datum) : datum.toValue.columnType = datum.columnType := by
  cases datum with
  | integer n => rcases integerValue_cases n with ⟨same, -⟩ | same <;> rw [toValue, same] <;> rfl
  | null | real | text | blob => rfl

theorem isNull_toValue (datum : Datum) :
    datum.toValue.isNull = decide (datum.columnType = .null) := by
  cases datum with
  | integer n => rcases integerValue_cases n with ⟨same, -⟩ | same <;> rw [toValue, same] <;> rfl
  | null | real | text | blob => rfl

/-- Where the value tells what is read, the datum is taken as it is. -/
theorem suits_of_cell? {datum : Datum} {reading : Reading} {cell : Cell}
    (tells : datum.toValue.cell? reading = some cell) : datum.suits reading = true := by
  cases datum with
  | integer n =>
    rcases integerValue_cases n with ⟨same, -⟩ | same <;> rw [toValue, same] at tells <;>
      cases reading <;> first | rfl | cases tells
  | null | real | text | blob => cases reading <;> first | rfl | cases tells

/-- The readings of a column agree with its value. -/
theorem cell_eq_of_cell? {datum : Datum} {reading : Reading} {cell : Cell}
    (tells : datum.toValue.cell? reading = some cell) : datum.cell reading = cell := by
  cases reading with
  | value => exact Option.some.inj tells
  | columnType =>
    rw [← Option.some.inj tells, columnType_toValue]
    rfl
  | isNull =>
    rw [← Option.some.inj tells, isNull_toValue]
    rfl
  | long =>
    cases datum with
    | integer n =>
      rcases integerValue_cases n with ⟨same, fits⟩ | same <;> rw [toValue, same] at tells <;>
        cases tells
      · exact congrArg Cell.long fits.symm
      · rfl
    | null | real | text | blob => cases tells
  | int | double | text | blob =>
    cases datum with
    | integer n =>
      rcases integerValue_cases n with ⟨same, -⟩ | same <;> rw [toValue, same] at tells <;>
        cases tells <;> rfl
    | null | real | text | blob => cases tells <;> rfl

end Native.Datum

end SqliteBridge
