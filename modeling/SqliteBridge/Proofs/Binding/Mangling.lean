import Mathlib.Data.List.Chain
import SqliteBridge.Binding.Config
import SqliteBridge.Binding.Path
import SqliteBridge.Proofs.Json.Scalars

/-! Exported symbols can be read back. A `_` in a symbol is a separator unless a digit
from 0 to 3 follows, which makes it an escape; so the names of a class and a method are
determined by their symbol as long as no separator of theirs stands before such a digit. -/
namespace SqliteBridge.Binding

/-! ### Reading one character -/

/-- The digits that make an escape of the `_` before them. -/
def escapeDigits : List Char := ['0', '1', '2', '3']

/-- The number that hexadecimal digits spell. -/
def readHex (digits : List Char) : Nat :=
  digits.foldl (fun value digit => value * 16 + (Json.hexValue? digit).getD 0) 0

/-- The character that a high and a low surrogate stand for. -/
def ofSurrogates (high low : Nat) : Char :=
  .ofNat (0x10000 + (high - 0xd800) * 0x400 + (low - 0xdc00))

/-- The names that a symbol spells, with their separators. -/
def demangleChars : List Char → List Char
  | [] => []
  | '_' :: '0' :: rest =>
    let unit := readHex (rest.take 4)
    if Json.isHighSurrogate unit then
      ofSurrogates unit (readHex ((rest.drop 6).take 4)) :: demangleChars (rest.drop 10)
    else .ofNat unit :: demangleChars (rest.drop 4)
  | '_' :: '1' :: rest => '_' :: demangleChars rest
  | '_' :: '2' :: rest => ';' :: demangleChars rest
  | '_' :: '3' :: rest => '[' :: demangleChars rest
  | '_' :: rest => '/' :: demangleChars rest
  | c :: rest => c :: demangleChars rest
termination_by text => text.length
decreasing_by all_goals simp <;> omega

/-- Padding in front leaves the last digit alone. -/
theorem padded_toDigits (width n : Nat) :
    List.replicate (width + 2 - (Nat.toDigits 16 n).length) '0' ++ Nat.toDigits 16 n =
      List.replicate (width + 1 - (Nat.toDigits 16 (n / 16)).length) '0' ++
        Nat.toDigits 16 (n / 16) ++ [Json.hexDigit n] := by
  rcases Nat.lt_or_ge n 16 with small | large
  · have single : Nat.toDigits 16 n = [Json.hexDigit n] := by
      rw [Nat.toDigits_of_lt_base small, Json.hexDigit, Nat.mod_eq_of_lt small]
    rw [single, Nat.div_eq_of_lt small, Nat.toDigits_zero]
    simp [List.replicate_succ']
  · rw [Nat.toDigits_of_base_le (by decide) large, Json.hexDigit]
    simp

theorem hexUnit_eq {unit : Nat} (bounded : unit < 0x10000) :
    hexUnit unit =
      [unit / 16 / 16 / 16, unit / 16 / 16, unit / 16, unit].map Json.hexDigit := by
  have last : Nat.toDigits 16 (unit / 16 / 16 / 16) = [Json.hexDigit (unit / 16 / 16 / 16)] := by
    have small : unit / 16 / 16 / 16 < 16 := by omega
    rw [Nat.toDigits_of_lt_base small, Json.hexDigit, Nat.mod_eq_of_lt small]
  rw [hexUnit, padded_toDigits 2, padded_toDigits 1, padded_toDigits 0, last]
  rfl

theorem readHex_hexUnit {unit : Nat} (bounded : unit < 0x10000) : readHex (hexUnit unit) = unit := by
  rw [hexUnit_eq bounded]
  simp [readHex, Json.hexValue_hexDigit]
  omega

theorem length_hexUnit {unit : Nat} (bounded : unit < 0x10000) : (hexUnit unit).length = 4 := by
  rw [hexUnit_eq bounded]
  rfl

/-! ### Reading a name -/

section Reading

variable {c : Char} {rest : List Char}

theorem demangle_plain (escape : c ≠ '_') :
    demangleChars (c :: rest) = c :: demangleChars rest := by
  rw [demangleChars.eq_def]
  split <;> simp_all

/-- A `_` that no escape digit follows is a separator. -/
theorem demangle_separator (unescaped : ∀ digit ∈ escapeDigits, rest.head? ≠ some digit) :
    demangleChars ('_' :: rest) = '/' :: demangleChars rest := by
  rw [demangleChars.eq_def]
  split
  case h_7 _ _ _ _ _ _ plain same => exact absurd (List.cons.inj same).1.symm plain
  all_goals simp_all [escapeDigits]

theorem demangle_unit {unit : Nat} (rest : List Char) (bounded : unit < 0x10000)
    (single : Json.isHighSurrogate unit = false) :
    demangleChars ('_' :: '0' :: (hexUnit unit ++ rest)) = .ofNat unit :: demangleChars rest := by
  have taken : (hexUnit unit ++ rest).take 4 = hexUnit unit :=
    List.take_left' (length_hexUnit bounded)
  have dropped : (hexUnit unit ++ rest).drop 4 = rest := List.drop_left' (length_hexUnit bounded)
  rw [demangleChars, taken, readHex_hexUnit bounded, single, dropped]
  rfl

theorem demangle_surrogates {high low : Nat} (rest : List Char) (highBound : high < 0x10000)
    (lowBound : low < 0x10000) (paired : Json.isHighSurrogate high = true) :
    demangleChars ('_' :: '0' :: (hexUnit high ++ '_' :: '0' :: (hexUnit low ++ rest))) =
      ofSurrogates high low :: demangleChars rest := by
  have highLength := length_hexUnit highBound
  have lowLength := length_hexUnit lowBound
  have first : (hexUnit high ++ '_' :: '0' :: (hexUnit low ++ rest)).take 4 = hexUnit high :=
    List.take_left' highLength
  have between : (hexUnit high ++ '_' :: '0' :: (hexUnit low ++ rest)).drop 6 =
      hexUnit low ++ rest := by
    rw [List.drop_append, List.drop_eq_nil_of_le (by omega), highLength]
    rfl
  have second : (hexUnit low ++ rest).take 4 = hexUnit low := List.take_left' lowLength
  have after : (hexUnit high ++ '_' :: '0' :: (hexUnit low ++ rest)).drop 10 = rest :=
    calc (hexUnit high ++ '_' :: '0' :: (hexUnit low ++ rest)).drop 10
      _ = ((hexUnit high ++ '_' :: '0' :: (hexUnit low ++ rest)).drop 6).drop 4 :=
        (List.drop_drop (i := 4) (j := 6)).symm
      _ = (hexUnit low ++ rest).drop 4 := by rw [between]
      _ = rest := List.drop_left' lowLength
  rw [demangleChars, first, readHex_hexUnit highBound, paired, between, second,
    readHex_hexUnit lowBound, after]
  rfl

end Reading

/-- The surrogates of a character stand for it. -/
theorem ofSurrogates_units {code : Nat} (supplementary : 0x10000 ≤ code) :
    ofSurrogates (0xd800 + (code - 0x10000) / 0x400) (0xdc00 + (code - 0x10000) % 0x400) =
      .ofNat code := by
  have sum : 0x10000 + (code - 0x10000) / 0x400 * 0x400 + (code - 0x10000) % 0x400 = code := by
    omega
  rw [ofSurrogates, Nat.add_sub_cancel_left, Nat.add_sub_cancel_left, sum]

/-- A character is no surrogate, so a single unit of it is not taken for half a pair. -/
theorem single_unit {code : Nat} (valid : code < 0xd800 ∨ 0xdfff < code) :
    Json.isHighSurrogate code = false := by
  rw [Json.isHighSurrogate, Bool.and_eq_false_iff, decide_eq_false_iff_not, decide_eq_false_iff_not]
  omega

theorem first_unit {code : Nat} (bounded : code < 0x110000) :
    Json.isHighSurrogate (0xd800 + (code - 0x10000) / 0x400) = true := by
  rw [Json.isHighSurrogate, Bool.and_eq_true, decide_eq_true_eq, decide_eq_true_eq]
  omega

theorem demangle_escaped (c : Char) (rest : List Char) :
    demangleChars ((utf16Units c).flatMap (fun unit => '_' :: '0' :: hexUnit unit) ++ rest) =
      c :: demangleChars rest := by
  have valid : c.toNat.isValidChar := c.valid
  rw [utf16Units]
  by_cases basic : c.toNat < 0x10000
  · have single := single_unit (valid.imp_right And.left)
    rw [if_pos basic, List.flatMap_singleton, List.cons_append, List.cons_append,
      demangle_unit rest basic single, Char.ofNat_toNat]
  · have bounded : c.toNat < 0x110000 := by
      rcases valid with low | high
      · omega
      · exact high.2
    have lowBound : 0xdc00 + (c.toNat - 0x10000) % 0x400 < 0x10000 := by omega
    have read := demangle_surrogates rest (by omega) lowBound (first_unit bounded)
    rw [ofSurrogates_units (by omega), Char.ofNat_toNat] at read
    rw [if_neg basic, List.flatMap_cons, List.flatMap_singleton, List.append_assoc,
      List.cons_append, List.cons_append, List.cons_append, List.cons_append, read]

theorem demangle_mangleChar {c : Char} {rest : List Char} (undotted : c ≠ '.')
    (separated : c = '/' → ∀ digit ∈ escapeDigits, rest.head? ≠ some digit) :
    demangleChars (mangleChar c ++ rest) = c :: demangleChars rest := by
  unfold mangleChar
  split
  · exact demangle_separator (separated rfl)
  · exact absurd rfl undotted
  · simp [demangleChars]
  · simp [demangleChars]
  · simp [demangleChars]
  · rename_i notUnderscore _ _
    split
    · exact demangle_plain notUnderscore
    · exact demangle_escaped c rest

/-- A form starts with a `_` unless it is the character itself. -/
theorem mangleChar_start (c : Char) :
    (∃ form, mangleChar c = '_' :: form) ∨ ∃ form, mangleChar c = c :: form := by
  unfold mangleChar
  split
  case h_6 =>
    split
    · exact .inr ⟨[], rfl⟩
    · have units : ∃ unit more, utf16Units c = unit :: more := by
        unfold utf16Units
        split <;> exact ⟨_, _, rfl⟩
      obtain ⟨unit, more, units⟩ := units
      rw [units, List.flatMap_cons, List.cons_append]
      exact .inl ⟨_, rfl⟩
  all_goals exact .inl ⟨_, rfl⟩

/-- A name of a class whose form can be read back. -/
structure IsReadable (name : List Char) : Prop where
  undotted : '.' ∉ name
  separated : name.IsChain fun c next => c = '/' → next ∉ escapeDigits

theorem isReadable_cons {c : Char} {rest : List Char} : IsReadable (c :: rest) ↔
    c ≠ '.' ∧ (c = '/' → ∀ next ∈ rest.head?, next ∉ escapeDigits) ∧ IsReadable rest := by
  constructor
  · rintro ⟨undotted, separated⟩
    rw [List.mem_cons, not_or] at undotted
    rw [List.isChain_cons] at separated
    exact ⟨Ne.symm undotted.1, fun slash next front => separated.1 next front slash,
      undotted.2, separated.2⟩
  · rintro ⟨plain, unescaped, undotted, separated⟩
    constructor
    · rw [List.mem_cons, not_or]
      exact ⟨Ne.symm plain, undotted⟩
    · rw [List.isChain_cons]
      exact ⟨fun next front slash => unescaped slash next front, separated⟩

/-- A name of a method that can follow the separator. -/
structure IsReadableMethod (name : List Char) : Prop where
  undotted : '.' ∉ name
  unseparated : '/' ∉ name
  start : ∀ first ∈ name.head?, first ∉ escapeDigits

/-- An escape digit at the front of a form stands for itself. -/
theorem head_mangleChars {name : List Char} {digit : Char} (escape : digit ∈ escapeDigits)
    (front : (mangleChars name).head? = some digit) : name.head? = some digit := by
  cases name with
  | nil => simp [mangleChars] at front
  | cons c rest =>
    have notUnderscore : digit ≠ '_' := by
      rintro rfl
      simp [escapeDigits] at escape
    obtain ⟨form, start⟩ | ⟨form, start⟩ := mangleChar_start c
    all_goals
      simp [mangleChars, start] at front
    · exact absurd front.symm notUnderscore
    · simp [front]

theorem demangle_mangleChars {name : List Char} (readable : IsReadable name) :
    demangleChars (mangleChars name) = name := by
  induction name with
  | nil => simp [mangleChars, demangleChars]
  | cons c rest ih =>
    obtain ⟨undotted, separated, readable⟩ := isReadable_cons.mp readable
    have unescaped : c = '/' → ∀ digit ∈ escapeDigits, (mangleChars rest).head? ≠ some digit := by
      intro slash digit escape front
      exact separated slash digit (head_mangleChars escape front) escape
    have first := demangle_mangleChar undotted unescaped
    rw [ih readable] at first
    exact first

/-! ### Symbols -/

theorem toList_symbolName (className methodName : String) :
    (symbolName className methodName).toList =
      "Java_".toList ++ mangleChars (className.toList ++ '/' :: methodName.toList) := by
  simp [symbolName, mangle, mangleChars, mangleChar]

/-- The separator between the names is one that can be read back. -/
theorem isReadable_join {name method : List Char} (readable : IsReadable name)
    (readableMethod : IsReadableMethod method) : IsReadable (name ++ '/' :: method) := by
  obtain ⟨undotted, separated⟩ := readable
  obtain ⟨undotted', unseparated, start⟩ := readableMethod
  constructor
  · simp [undotted, undotted']
  · rw [List.isChain_append, List.isChain_cons]
    refine ⟨separated, ⟨fun next front _ => start next front, ?_⟩, ?_⟩
    · rw [List.isChain_iff_forall_rel_of_append_cons_cons]
      rintro c next before after rfl rfl
      simp at unseparated
    · simp [escapeDigits]

/-- The last separator is the one before the method. -/
theorem join_injective {name name' method method' : List Char} (unseparated : '/' ∉ method)
    (unseparated' : '/' ∉ method') (same : name ++ '/' :: method = name' ++ '/' :: method') :
    name = name' ∧ method = method' := by
  rcases List.append_eq_append_iff.mp same with ⟨between, rfl, rest⟩ | ⟨between, rfl, rest⟩
  all_goals
    cases between with
    | nil => simpa [eq_comm] using rest
    | cons c between =>
      obtain ⟨rfl, rfl⟩ := List.cons.inj rest
      simp at unseparated unseparated'

/-- No part of a class name starts with a digit. -/
theorem isReadable_of_isClassName {start : Bool} {name : List Char}
    (valid : Config.isClassName start name = true) :
    IsReadable name ∧ (start = true → ∀ first ∈ name.head?, first ∉ escapeDigits) := by
  induction name generalizing start with
  | nil => exact ⟨⟨by simp, .nil⟩, by simp⟩
  | cons c rest ih =>
    cases start with
    | true =>
      simp only [Config.isClassName, Bool.and_eq_true] at valid
      obtain ⟨starts, continues⟩ := valid
      have excluded : ∀ d ∈ '.' :: '/' :: escapeDigits, c ≠ d := by
        rintro d listed rfl
        have refused : (('.' :: '/' :: escapeDigits).all fun d => !Config.startsClassSegment d) =
            true := by decide
        have excluded := List.all_eq_true.mp refused c listed
        rw [starts] at excluded
        contradiction
      have undotted : c ≠ '.' := excluded '.' (by decide)
      have unseparated : c ≠ '/' := excluded '/' (by decide)
      refine ⟨isReadable_cons.mpr ⟨undotted, fun slash => absurd slash unseparated,
        (ih continues).1⟩, fun _ first front escape => ?_⟩
      obtain rfl : c = first := by simpa using front
      exact excluded c (by simp [escape]) rfl
    | false =>
      simp only [Config.isClassName] at valid
      split at valid
      · rename_i slash
        obtain ⟨readable, unescaped⟩ := ih valid
        have undotted : c ≠ '.' := by
          rw [slash]
          decide
        exact ⟨isReadable_cons.mpr ⟨undotted, fun _ => unescaped rfl, readable⟩, by simp⟩
      · rename_i unseparated
        rw [Bool.and_eq_true] at valid
        have undotted : c ≠ '.' := by
          rintro rfl
          exact absurd valid.1 (by decide)
        exact ⟨isReadable_cons.mpr ⟨undotted, fun slash => absurd slash unseparated,
          (ih valid.2).1⟩, by simp⟩

theorem isClassName_of_validate {tools : Toolkit} {config : Config}
    (valid : config.validate tools = .ok ()) :
    Config.isClassName true config.className.toList = true := by
  by_contra refused
  rw [Config.validate, if_pos (by simp [refused])] at valid
  contradiction

/-- The other parts of a valid configuration. -/
theorem parts_of_validate {tools : Toolkit} {config : Config}
    (valid : config.validate tools = .ok ()) :
    Config.isMethodStart config.methodStart.toList = true ∧
      ∃ operations runtime, config.operations tools = .ok operations ∧
        config.runtime tools = .ok runtime := by
  have named := isClassName_of_validate valid
  rw [Config.validate, named] at valid
  cases start : Config.isMethodStart config.methodStart.toList with
  | false =>
    rw [start] at valid
    contradiction
  | true =>
    rw [start] at valid
    cases operations : config.operations tools with
    | error fault =>
      rw [operations] at valid
      contradiction
    | ok operations' =>
      cases runtime : config.runtime tools with
      | error fault =>
        rw [operations, runtime] at valid
        contradiction
      | ok runtime' => exact ⟨rfl, operations', runtime', rfl, rfl⟩

/-! ### The characters of a symbol -/

/-- A symbol that can be exported under its own name: it has no character that a
linker or a compiler refuses, and is no reserved word. -/
structure IsExported (symbol : String) : Prop where
  ascii : ∀ c ∈ symbol.toList, isAsciiAlphanumeric c = true ∨ c = '_'
  identifier : Identifier.ofText symbol = .ok ⟨symbol, false⟩
  unreserved : symbol ∉ Path.keywords

theorem ascii_hexDigit (n : Nat) : isAsciiAlphanumeric (Json.hexDigit n) = true := by
  have small : ∀ digit < 16, isAsciiAlphanumeric digit.digitChar = true := by decide
  exact small (n % 16) (Nat.mod_lt _ (by decide))

theorem ascii_hexUnit {unit : Nat} {c : Char} (bounded : unit < 0x10000) (digit : c ∈ hexUnit unit) :
    isAsciiAlphanumeric c = true := by
  rw [hexUnit_eq bounded, List.mem_map] at digit
  obtain ⟨n, -, rfl⟩ := digit
  exact ascii_hexDigit n

theorem bounded_utf16Units {c : Char} {unit : Nat} (listed : unit ∈ utf16Units c) :
    unit < 0x10000 := by
  have valid : c.toNat.isValidChar := c.valid
  have bounded : c.toNat < 0x110000 := by
    rcases valid with low | high
    · omega
    · exact high.2
  unfold utf16Units at listed
  split at listed
  · simp at listed
    omega
  · simp at listed
    omega

theorem ascii_of_all {form : List Char} {c : Char}
    (all : (form.all fun d => isAsciiAlphanumeric d || d == '_') = true) (listed : c ∈ form) :
    isAsciiAlphanumeric c = true ∨ c = '_' := by
  have ascii := List.all_eq_true.mp all c listed
  rwa [Bool.or_eq_true, beq_iff_eq] at ascii

theorem ascii_mangleChar {c d : Char} (listed : d ∈ mangleChar c) :
    isAsciiAlphanumeric d = true ∨ d = '_' := by
  unfold mangleChar at listed
  split at listed
  case h_6 =>
    split at listed
    · rename_i ascii
      rw [List.mem_singleton] at listed
      exact .inl (listed ▸ ascii)
    · rw [List.mem_flatMap] at listed
      obtain ⟨unit, ofChar, listed⟩ := listed
      rcases List.mem_cons.mp listed with rfl | listed
      · exact .inr rfl
      · rcases List.mem_cons.mp listed with rfl | listed
        · exact .inl (by decide)
        · exact .inl (ascii_hexUnit (bounded_utf16Units ofChar) listed)
  all_goals exact ascii_of_all (by decide) listed

theorem ascii_symbolName {className methodName : String} {c : Char}
    (listed : c ∈ (symbolName className methodName).toList) :
    isAsciiAlphanumeric c = true ∨ c = '_' := by
  rw [toList_symbolName, List.mem_append] at listed
  rcases listed with start | names
  · exact ascii_of_all (by decide) start
  · obtain ⟨d, -, listed⟩ := List.mem_flatMap.mp names
    exact ascii_mangleChar listed

/-- What is checked of every ASCII code holds of every ASCII character. -/
theorem forall_ascii {P : Char → Prop} (table : ∀ code < 0x80, P (.ofNat code)) {c : Char}
    (ascii : c.toNat < 0x80) : P c := by
  have entry := table c.toNat ascii
  rwa [Char.ofNat_toNat] at entry

theorem toNat_lt_of_alphanumeric {c : Char} (alphanumeric : isAsciiAlphanumeric c = true) :
    c.toNat < 0x80 := by
  rw [isAsciiAlphanumeric, Bool.and_eq_true, decide_eq_true_eq] at alphanumeric
  exact alphanumeric.1

theorem continuesIdentifier_of_ascii {c : Char} (ascii : isAsciiAlphanumeric c = true ∨ c = '_') :
    Text.continuesIdentifier c = true := by
  rcases ascii with alphanumeric | rfl
  · exact forall_ascii
      (P := fun c => isAsciiAlphanumeric c = true → Text.continuesIdentifier c = true)
      (by decide +kernel) (toNat_lt_of_alphanumeric alphanumeric) alphanumeric
  · decide

/-- What starts with a letter and has only ASCII letters, digits and `_` is an identifier of
its own. -/
theorem ofText_ascii {text : String} {first : Char} {rest : List Char}
    (start : text.toList = first :: rest) (letter : Text.startsIdentifier first = true)
    (notDigit : first.isDigit = false)
    (ascii : ∀ c ∈ text.toList, isAsciiAlphanumeric c = true ∨ c = '_') :
    Identifier.ofText text = .ok ⟨text, false⟩ := by
  have spelled : Identifier.isSpelled text.toList = true := by
    rw [start] at ascii ⊢
    rw [Identifier.isSpelled, Bool.and_eq_true, List.all_eq_true]
    refine ⟨letter, fun c listed => ?_⟩
    exact continuesIdentifier_of_ascii (ascii c (List.mem_cons_of_mem _ listed))
  have notNumber : text.toList.all Char.isDigit = false := by
    rw [start, List.all_cons, notDigit]
    rfl
  have plain : Identifier.plain text = .ok ⟨text, false⟩ := by
    rw [Identifier.plain, notNumber, spelled, start]
    rfl
  rw [Identifier.ofText]
  split
  · rename_i marked
    rw [marked] at ascii
    exact absurd (ascii '#' (by simp)) (by decide)
  · exact plain

theorem isExported_symbolName (className methodName : String) :
    IsExported (symbolName className methodName) := by
  have start : (symbolName className methodName).toList = 'J' :: _ :=
    toList_symbolName className methodName
  constructor
  · intro c listed
    exact ascii_symbolName listed
  · exact ofText_ascii start (by decide) (by decide) fun c listed => ascii_symbolName listed
  · intro reserved
    have words : ∀ word ∈ Path.keywords, word.toList.head? ≠ some 'J' := by decide +kernel
    exact words _ reserved (by rw [start]; rfl)

/-- A symbol determines the names of its class and method if no escape of theirs can
be mistaken for a separator, as is so for the class of every valid configuration. The
symbol of any names can be exported. -/
theorem symbolName_faithful :
    (∀ className className' methodName methodName' : String,
      IsReadable className.toList → IsReadable className'.toList →
      IsReadableMethod methodName.toList → IsReadableMethod methodName'.toList →
      symbolName className methodName = symbolName className' methodName' →
      className = className' ∧ methodName = methodName') ∧
    (∀ (tools : Toolkit) (config : Config), config.validate tools = .ok () →
      IsReadable config.className.toList) ∧
    ∀ className methodName : String, IsExported (symbolName className methodName) := by
  refine ⟨?_, ?_, isExported_symbolName⟩
  · intro className className' methodName methodName' readable readable' method method' same
    have symbols := congrArg String.toList same
    rw [toList_symbolName, toList_symbolName, List.append_cancel_left_eq] at symbols
    have names := congrArg demangleChars symbols
    rw [demangle_mangleChars (isReadable_join readable method),
      demangle_mangleChars (isReadable_join readable' method')] at names
    obtain ⟨classes, methods⟩ := join_injective method.unseparated method'.unseparated names
    exact ⟨String.toList_inj.mp classes, String.toList_inj.mp methods⟩
  · intro tools config valid
    exact (isReadable_of_isClassName (isClassName_of_validate valid)).1

/-- Two classes of which one has an underscore where the other has a separator. -/
theorem symbolName_faithful_underscore :
    symbolName "com/a_b/Api" "nativeStep" ≠ symbolName "com/a/b/Api" "nativeStep" := by
  intro same
  have names := symbolName_faithful.1 _ _ _ _ ⟨by decide, by decide⟩ ⟨by decide, by decide⟩
    ⟨by decide, by decide, by simp [escapeDigits]⟩ ⟨by decide, by decide, by simp [escapeDigits]⟩
    same
  exact absurd names.1 (by decide)

/-- The digit after the separator makes it an escape. -/
example : symbolName "a/1" "m" = symbolName "a_" "m" := by decide +kernel

end SqliteBridge.Binding
