import SqliteBridge.Authorization
import SqliteBridge.Binding.BoundaryType
import SqliteBridge.Binding.LogicalType
import SqliteBridge.Binding.Toolkit
import SqliteBridge.OpenConfig
import SqliteBridge.Proofs.Json.Numbers
import SqliteBridge.Value

/-! The serialized types. Every value of them reads back from its own text. The one exception is
a binary64 number that is not finite, which has no text of its own. -/
namespace SqliteBridge

open Json (Reads Reader Variant Ends parse)
open Json.Record (Fills)

/-! ### Codes and kinds -/

theorem ResultCode.reads (code : ResultCode) : Reads readJson code.writeJson code := by
  have within := And.intro code.value.minValue_le_toInt code.value.toInt_le
  have read := (Json.integer_reads "i32" (by decide) (by decide) within).map
    fun n => (⟨Int32.ofInt n⟩ : ResultCode)
  rw [Int32.ofInt_toInt] at read
  exact read

/-- Kinds that are written as their names. -/
theorem named_reads {α : Type} {kinds : List α} {name : α → String} {kind : α}
    (found : kinds.find? (fun other => name other == name kind) = some kind) :
    Reads (Variant.read (kinds.map fun kind => .bare (name kind) kind))
      (Json.writeString (name kind)) kind := by
  apply Variant.reads_bare
  rw [List.find?_map]
  exact congrArg _ found

theorem ColumnType.reads (kind : ColumnType) : Reads readJson kind.writeJson kind :=
  named_reads (by cases kind <;> decide)

theorem Verdict.reads (verdict : Verdict) : Reads readJson verdict.writeJson verdict :=
  named_reads (by cases verdict <;> decide)

theorem Binding.LogicalType.reads (type : LogicalType) : Reads readJson type.writeJson type :=
  named_reads (by cases type <;> decide)

theorem Binding.BoundaryType.reads (type : BoundaryType) : Reads readJson type.writeJson type :=
  named_reads (by cases type <;> decide)

/-! ### Records -/

theorem OpenFlags.reads (flags : OpenFlags) : Reads format.read (format.write flags) flags := by
  apply Json.Record.reads_of_fills (by decide)
  have set {β : Type} (f : Bool → β) (b : Bool) := (Json.boolean_reads b).map f
  exact .cons (set _ _) <| .cons (set _ _) <| .cons (set _ _) <| .cons (set _ _) <|
    .cons (set _ _) <| .cons (set _ _) <| .cons (set _ _) <| .nil flags

theorem OpenConfig.reads (config : OpenConfig) : Reads format.read (format.write config) config := by
  apply Json.Record.reads_of_fills (by decide)
  have timeout : Reads (Json.integer "u32" 0 4294967295)
      (Json.writeInt config.busyTimeout.toNat) config.busyTimeout.toNat := by
    have below := config.busyTimeout.toNat_lt
    exact Json.integer_reads "u32" (by decide) (by decide) (by omega)
  have last := timeout.map fun n => (⟨config.path, config.flags, .ofNat n.toNat⟩ : OpenConfig)
  rw [Int.toNat_natCast, UInt32.ofNat_toNat] at last
  exact .cons ((Json.string_reads _).map _) <| .cons ((OpenFlags.reads _).map _) <|
    .cons last <| .nil config

theorem AuthorizationRequest.reads (request : AuthorizationRequest) :
    Reads format.read (format.write request) request := by
  apply Json.Record.reads_of_fills (by decide)
  have within := And.intro request.action.minValue_le_toInt request.action.toInt_le
  have action := (Json.integer_reads "i32" (by decide) (by decide) within).map fun n =>
    (⟨Int32.ofInt n, none, none, none, none⟩ : AuthorizationRequest)
  rw [Int32.ofInt_toInt] at action
  have set {β : Type} (f : Option String → β) (s? : Option String) :=
    (Json.optional_string_reads s?).map f
  exact .cons action <| .cons (set _ _) <| .cons (set _ _) <| .cons (set _ _) <|
    .cons (set _ _) <| .nil request

theorem Binding.Config.reads (config : Config) :
    Reads format.read (format.write config) config := by
  apply Json.Record.reads_of_fills (by decide)
  have set {β : Type} (f : String → β) (s : String) := (Json.string_reads s).map f
  exact .cons (set _ _) <| .cons (set _ _) <| .cons (set _ _) <| .cons (set _ _) <|
    .cons ((Json.optional_string_reads _).map _) <| .nil config

/-! ### Values -/

namespace Value

theorem bytes_reads (bytes : ByteArray) : Reads
    ((fun items : List Int => blob ⟨(items.map fun n => UInt8.ofNat n.toNat).toArray⟩) <$>
      Json.sequence (Json.integer "u8" 0 255))
    (Json.writeArray (fun byte => Json.writeInt byte.toNat) bytes.data.toList) (blob bytes) := by
  have each : ∀ n ∈ bytes.data.toList.map fun byte => (byte.toNat : Int),
      Reads (Json.integer "u8" 0 255) (Json.writeInt n) n ∧ Json.Starts ']' (Json.writeInt n) := by
    intro n listed
    obtain ⟨byte, _, rfl⟩ := List.mem_map.mp listed
    have below := byte.toNat_lt
    refine ⟨Json.integer_reads "u8" (by decide) (by decide) (by omega), ?_⟩
    obtain ⟨first, more, spelled, sign | digit⟩ := Json.writeInt_starts byte.toNat
    · exact ⟨first, more, spelled, by rw [sign]; decide, by rw [sign]; decide⟩
    · refine ⟨first, more, spelled, Json.solid_of_digit digit, ?_⟩
      rintro rfl
      contradiction
  have read := (Json.sequence_reads each).map fun items : List Int =>
    blob ⟨(items.map fun n => UInt8.ofNat n.toNat).toArray⟩
  have kept : (bytes.data.toList.map fun byte => (byte.toNat : Int)).map
      (fun n => UInt8.ofNat n.toNat) = bytes.data.toList := by
    rw [List.map_map]
    exact List.map_id'' (fun byte => UInt8.ofNat_toNat) _
  rw [kept, Array.toArray_toList, Json.writeArray, List.map_map] at read
  exact read

/-- The text of a finite number reads back as the number. -/
def Recalls (x : Binary64) : Prop := parse Json.binary64 (.ofList x.jsonText) = .ok x

/-- A value that has a text of its own. -/
def Writable (value : Value) : Prop :=
  ∀ x, value = double x → x.isFinite = true ∧ Recalls x

theorem reads {value : Value} (writable : value.Writable) :
    Reads readJson value.writeJson value := by
  cases value with
  | null => exact Variant.reads_bare rfl
  | int n =>
    have within := And.intro n.minValue_le_toInt n.toInt_le
    have read := (Json.integer_reads "i32" (by decide) (by decide) within).map (int ∘ Int32.ofInt)
    rw [Function.comp_apply, Int32.ofInt_toInt] at read
    exact Variant.reads_holding_exactly rfl read
  | long n =>
    have within := And.intro n.minValue_le_toInt n.toInt_le
    have read := (Json.integer_reads "i64" (by decide) (by decide) within).map (long ∘ Int64.ofInt)
    rw [Function.comp_apply, Int64.ofInt_toInt] at read
    exact Variant.reads_holding_exactly rfl read
  | double x =>
    obtain ⟨finite, recalls⟩ := writable x rfl
    obtain ⟨blanks, ran, blank⟩ := Json.parse_eq_ok.mp recalls
    rw [String.toList_ofList] at ran
    obtain ⟨_, same⟩ := Json.binary64_delimited ran
    rw [writeJson, Json.writeBinary64, if_pos finite]
    refine Variant.reads_holding rfl blank fun rest => ?_
    rw [StateT.run_map, same _ (Json.ends_brace rest)]
    rfl
  | text s => exact Variant.reads_holding_exactly rfl ((Json.string_reads s).map text)
  | blob bytes => exact Variant.reads_holding_exactly rfl (bytes_reads bytes)

/-- A number that is not finite is written as no number, which is not read. -/
theorem unwritable {x : Binary64} (infinite : x.isFinite = false) :
    (double x).writeJson = "\x7b\"Double\":null\x7d".toList ∧
      parse readJson (.ofList (double x).writeJson) = .error (Json.invalidType "null" "f64") := by
  have text : (double x).writeJson = "\x7b\"Double\":null\x7d".toList := by
    rw [writeJson, Json.writeBinary64, infinite]
    rfl
  refine ⟨text, ?_⟩
  rw [text]
  decide +kernel

/-- A number that is read is finite. -/
theorem isFinite_of_parse {text : String} {x : Binary64}
    (parsed : parse readJson text = .ok (double x)) : x.isFinite = true := by
  obtain ⟨rest, ran, _⟩ := Json.parse_eq_ok.mp parsed
  rcases Variant.read_eq_ok ran with ⟨name, listed⟩ | ⟨name, content, before, after, listed, ran⟩
  · simp at listed
  · simp only [List.mem_cons, List.not_mem_nil, or_false, reduceCtorEq, false_or,
      Variant.holding.injEq] at listed
    rcases listed with ⟨_, rfl⟩ | ⟨_, rfl⟩ | ⟨_, rfl⟩ | ⟨_, rfl⟩ | ⟨_, rfl⟩ <;>
      obtain ⟨content, read, same⟩ := Json.run_map_eq_ok ran <;> cases same
    exact (Json.binary64_delimited read).1

end Value

/-! ### Round trips -/

namespace Json

/-- The value reads back from its own text, and the value that is read has the same text. -/
structure RoundTrips {α : Type} (read : Reader α) (write : α → List Char) (value : α) : Prop where
  value_eq : parse read (.ofList (write value)) = .ok value
  text_eq : (parse read (.ofList (write value))).map write = .ok (write value)

theorem Reads.roundTrips {α : Type} {read : Reader α} {write : α → List Char} {value : α}
    (reads : Reads read (write value) value) : RoundTrips read write value := by
  have parsed := parse_of_reads reads
  exact ⟨parsed, by rw [parsed]; rfl⟩

/-- All values make the round trip, and so does whatever a text is read as. -/
structure Faithful {α : Type} (read : Reader α) (write : α → List Char) : Prop where
  written : ∀ value, RoundTrips read write value
  accepted : ∀ text value, parse read text = .ok value → RoundTrips read write value

theorem faithful_of_reads {α : Type} {read : Reader α} {write : α → List Char}
    (reads : ∀ value, Reads read (write value) value) : Faithful read write where
  written value := (reads value).roundTrips
  accepted _ value _ := (reads value).roundTrips

/-- The serialized types. Of a number in a value it is supposed that its text recalls it. -/
theorem serialized_roundTrip :
    Faithful ResultCode.readJson ResultCode.writeJson ∧
    Faithful ColumnType.readJson ColumnType.writeJson ∧
    Faithful OpenConfig.format.read OpenConfig.format.write ∧
    Faithful OpenFlags.format.read OpenFlags.format.write ∧
    Faithful Verdict.readJson Verdict.writeJson ∧
    Faithful AuthorizationRequest.format.read AuthorizationRequest.format.write ∧
    Faithful Binding.LogicalType.readJson Binding.LogicalType.writeJson ∧
    Faithful Binding.BoundaryType.readJson Binding.BoundaryType.writeJson ∧
    Faithful Binding.Config.format.read Binding.Config.format.write ∧
    (∀ value : Value, (∀ x, value = .double x → x.isFinite = true ∧ Value.Recalls x) →
      RoundTrips Value.readJson Value.writeJson value) ∧
    (∀ x : Binary64, x.isFinite = false →
      (Value.double x).writeJson = "\x7b\"Double\":null\x7d".toList ∧
        parse Value.readJson (.ofList (Value.double x).writeJson) =
          .error (invalidType "null" "f64")) ∧
    ∀ (text : String) (value : Value), parse Value.readJson text = .ok value →
      (∀ x, value = .double x → Value.Recalls x) →
        RoundTrips Value.readJson Value.writeJson value := by
  refine ⟨faithful_of_reads ResultCode.reads, faithful_of_reads ColumnType.reads,
    faithful_of_reads OpenConfig.reads, faithful_of_reads OpenFlags.reads,
    faithful_of_reads Verdict.reads, faithful_of_reads AuthorizationRequest.reads,
    faithful_of_reads Binding.LogicalType.reads, faithful_of_reads Binding.BoundaryType.reads,
    faithful_of_reads Binding.Config.reads, ?_, ?_, ?_⟩
  · intro value writable
    exact (Value.reads writable).roundTrips
  · intro x infinite
    exact Value.unwritable infinite
  · intro text value parsed recalls
    refine (Value.reads ?_).roundTrips
    rintro x rfl
    exact ⟨Value.isFinite_of_parse parsed, recalls x rfl⟩

/-- The number three halves, and a text of another form that is read as it. -/
theorem serialized_roundTrip_half :
    RoundTrips Value.readJson Value.writeJson (.double ⟨0x3ff8000000000000⟩) ∧
    (Value.double .nan).writeJson = "\x7b\"Double\":null\x7d".toList ∧
    parse Value.readJson " \x7b\"Double\" : 15e-1 \x7d" = .ok (.double ⟨0x3ff8000000000000⟩) := by
  obtain ⟨_, _, _, _, _, _, _, _, _, finite, infinite, accepted⟩ := serialized_roundTrip
  have recalls : Value.Recalls ⟨0x3ff8000000000000⟩ := by
    unfold Value.Recalls
    decide +kernel
  have parsed : parse Value.readJson " \x7b\"Double\" : 15e-1 \x7d" =
      .ok (.double ⟨0x3ff8000000000000⟩) := by
    decide +kernel
  refine ⟨accepted _ _ parsed ?_, (infinite .nan (by decide)).1, parsed⟩
  rintro x same
  cases same
  exact recalls

end Json

end SqliteBridge
