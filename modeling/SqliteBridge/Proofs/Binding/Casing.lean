import SqliteBridge.Binding.Catalog
import SqliteBridge.Proofs.Binding.Mangling

/-! The case forms of the name of an operation. Snake case undoes camel case, so that the
native methods of different operations have different names and so do their bodies; and
all these names are spelled with ASCII letters and digits alone. -/
namespace SqliteBridge.Binding

/-- Whether the characters are lower case words that start with a letter, with single
underscores between them. `start` says that a word begins here. -/
def isOperationName : (start : Bool) → List Char → Bool
  | start, [] => !start
  | true, c :: rest => Config.isAsciiLower c && isOperationName false rest
  | false, c :: rest =>
    if c = '_' then isOperationName true rest
    else (Config.isAsciiLower c || c.isDigit) && isOperationName false rest

/-! ### One character -/

section Character

variable {c : Char}

theorem toNat_lt_of_lower (lower : Config.isAsciiLower c = true) : c.toNat < 0x80 := by
  rw [Config.isAsciiLower, Bool.and_eq_true, decide_eq_true_eq, decide_eq_true_eq, Char.le_def,
    Char.le_def, UInt32.le_iff_toNat_le, UInt32.le_iff_toNat_le] at lower
  exact Nat.lt_of_le_of_lt lower.2 (by decide)

theorem toNat_lt_of_digit (digit : c.isDigit = true) : c.toNat < 0x80 := by
  rw [Char.isDigit, Bool.and_eq_true, decide_eq_true_eq, decide_eq_true_eq] at digit
  exact Nat.lt_of_le_of_lt (UInt32.le_iff_toNat_le.mp digit.2) (by decide)

/-- A lower case letter, which has a capital. -/
structure HasCapital (c : Char) : Prop where
  ne_underscore : c ≠ '_'
  notDigit : c.isDigit = false
  plain : isAsciiUpper c = false
  upper : isAsciiUpper c.toUpper = true
  toLower_toUpper : c.toUpper.toLower = c
  alphanumeric : isAsciiAlphanumeric c = true
  capital_alphanumeric : isAsciiAlphanumeric c.toUpper = true

theorem hasCapital_of_lower (lower : Config.isAsciiLower c = true) : HasCapital c := by
  obtain ⟨underscore, digit, plain, upper, back, ascii, capital⟩ := forall_ascii
    (P := fun c => Config.isAsciiLower c = true →
      c ≠ '_' ∧ c.isDigit = false ∧ isAsciiUpper c = false ∧ isAsciiUpper c.toUpper = true ∧
        c.toUpper.toLower = c ∧ isAsciiAlphanumeric c = true ∧
        isAsciiAlphanumeric c.toUpper = true)
    (by decide +kernel) (toNat_lt_of_lower lower) lower
  exact ⟨underscore, digit, plain, upper, back, ascii, capital⟩

theorem upperCase_of_lower (lower : Config.isAsciiLower c = true) :
    Text.upperCase c = [c.toUpper] := by
  rw [Text.upperCase, if_pos (toNat_lt_of_lower lower)]

theorem plain_of_digit (digit : c.isDigit = true) :
    isAsciiUpper c = false ∧ isAsciiAlphanumeric c = true :=
  forall_ascii
    (P := fun c => c.isDigit = true → isAsciiUpper c = false ∧ isAsciiAlphanumeric c = true)
    (by decide +kernel) (toNat_lt_of_digit digit) digit

end Character

/-! ### Snake case of camel case -/

theorem snakeChars_append (first rest : List Char) :
    snakeChars (first ++ rest) = snakeChars first ++ snakeChars rest := List.flatMap_append

theorem snakeChars_plain {c : Char} (plain : isAsciiUpper c = false) (rest : List Char) :
    snakeChars (c :: rest) = c :: snakeChars rest := by
  rw [snakeChars, List.flatMap_cons, plain]
  rfl

theorem snakeChars_capital {c : Char} (upper : isAsciiUpper c = true) (rest : List Char) :
    snakeChars (c :: rest) = '_' :: c.toLower :: snakeChars rest := by
  rw [snakeChars, List.flatMap_cons, upper]
  rfl

/-- The snake case of a camel case name spells the words again, with an underscore before
the first if that had a capital. -/
theorem snakeChars_camelChars {start : Bool} {name : List Char}
    (named : isOperationName start name = true) :
    snakeChars (camelChars start name) = if start then '_' :: name else name := by
  induction name generalizing start with
  | nil =>
    cases start with
    | true => contradiction
    | false => rfl
  | cons c rest ih =>
    cases start with
    | true =>
      rw [isOperationName, Bool.and_eq_true] at named
      obtain ⟨lower, continued⟩ := named
      have capital := hasCapital_of_lower lower
      have words := ih continued
      rw [if_neg Bool.false_ne_true] at words
      rw [camelChars, if_neg capital.ne_underscore, if_pos rfl, if_pos rfl,
        upperCase_of_lower lower, List.singleton_append, snakeChars_capital capital.upper, words,
        capital.toLower_toUpper]
    | false =>
      rw [isOperationName] at named
      rw [if_neg Bool.false_ne_true]
      split at named
      · rename_i underscore
        rw [camelChars, if_pos underscore, ih named, if_pos rfl, underscore]
      · rename_i letter
        rw [Bool.and_eq_true, Bool.or_eq_true] at named
        have plain : isAsciiUpper c = false := by
          rcases named.1 with lower | digit
          · exact (hasCapital_of_lower lower).plain
          · exact (plain_of_digit digit).1
        have words := ih named.2
        rw [if_neg Bool.false_ne_true] at words
        rw [camelChars, if_neg letter, if_neg Bool.false_ne_true, snakeChars_plain plain, words]

/-! ### The names of methods and bodies -/

/-- The name of an operation starts with a letter. -/
theorem isOperationName_cons {name : List Char} (named : isOperationName true name = true) :
    ∃ first rest, name = first :: rest ∧ Config.isAsciiLower first = true ∧
      isOperationName false rest = true := by
  cases name with
  | nil => contradiction
  | cons first rest =>
    rw [isOperationName, Bool.and_eq_true] at named
    exact ⟨first, rest, rfl, named.1, named.2⟩

/-- Only the first character of all goes without an underscore. -/
theorem snakeCase_append {start : String} (some : start ≠ "") (rest : List Char) :
    snakeCase (start ++ .ofList rest) = snakeCase start ++ .ofList (snakeChars rest) := by
  cases spelled : start.toList with
  | nil => exact absurd (String.toList_eq_nil_iff.mp spelled) some
  | cons first others =>
    rw [snakeCase, snakeCase, String.toList_append, String.toList_ofList, spelled,
      ← String.ofList_append]
    exact congrArg (fun more => String.ofList (_ :: more)) (snakeChars_append others rest)

/-- The body of an operation is called like the operation if its native method has no start. -/
theorem snakeCase_methodName_of_empty {name : String}
    (named : isOperationName true name.toList = true) : snakeCase (methodName "" name) = name := by
  obtain ⟨first, rest, spelled, lower, continued⟩ := isOperationName_cons named
  have letter := hasCapital_of_lower lower
  have words := snakeChars_camelChars continued
  rw [if_neg Bool.false_ne_true] at words
  have camel : (methodName "" name).toList = first :: camelChars false rest := by
    rw [methodName, String.empty_append, String.toList_ofList, spelled, camelChars,
      if_neg letter.ne_underscore]
    rfl
  rw [← String.toList_inj, snakeCase, camel, spelled]
  dsimp only
  rw [String.toList_ofList, letter.plain, words]
  rfl

/-- The body of an operation is called like the operation, after the snake case of the start
that its native method has. -/
theorem snakeCase_methodName_of_nonempty {start name : String} (some : start ≠ "")
    (named : isOperationName true name.toList = true) :
    snakeCase (methodName start name) = snakeCase start ++ "_" ++ name := by
  have capital : start.isEmpty = false := by simpa using some
  rw [methodName, capital, snakeCase_append some, Bool.not_false, snakeChars_camelChars named,
    if_pos rfl, ← String.toList_inj]
  simp

section Method

variable {start name : String} (valid : Config.isMethodStart start.toList = true)
  (named : isOperationName true name.toList = true)

include valid named

/-- A method name starts with a lower case letter: that of the operation, whose other words
follow in camel case, or that of the start, which all words follow. -/
theorem methodName_cases :
    (∃ first rest, start.toList = [] ∧ name.toList = first :: rest ∧
      Config.isAsciiLower first = true ∧ isOperationName false rest = true ∧
      (methodName start name).toList = first :: camelChars false rest) ∨
    ∃ first rest, start.toList = first :: rest ∧ Config.isAsciiLower first = true ∧
      (∀ c ∈ rest, isAsciiAlphanumeric c = true) ∧
      (methodName start name).toList = first :: (rest ++ camelChars true name.toList) := by
  cases spelled : start.toList with
  | nil =>
    obtain ⟨first, rest, named, lower, continued⟩ := isOperationName_cons named
    have noStart : start.isEmpty = true := by simpa using spelled
    refine .inl ⟨first, rest, rfl, named, lower, continued, ?_⟩
    rw [methodName, String.toList_append, spelled, String.toList_ofList, named, noStart,
      camelChars, if_neg (hasCapital_of_lower lower).ne_underscore]
    rfl
  | cons first rest =>
    rw [spelled, Config.isMethodStart, Bool.and_eq_true, List.all_eq_true] at valid
    have someStart : start.isEmpty = false := by
      rw [← Bool.not_eq_true]
      intro empty
      rw [String.isEmpty_iff.mp empty] at spelled
      contradiction
    refine .inr ⟨first, rest, rfl, valid.1, valid.2, ?_⟩
    rw [methodName, String.toList_append, spelled, String.toList_ofList, someStart]
    rfl

/-- The names of bodies by their characters. -/
theorem toList_snakeCase_methodName : (snakeCase (methodName start name)).toList =
    if start.toList = [] then name.toList else snakeChars start.toList ++ '_' :: name.toList := by
  cases spelled : start.toList with
  | nil =>
    rw [if_pos rfl, String.toList_eq_nil_iff.mp spelled, snakeCase_methodName_of_empty named]
  | cons first rest =>
    have some : start ≠ "" := by
      rintro rfl
      contradiction
    rw [spelled, Config.isMethodStart, Bool.and_eq_true] at valid
    have plain := (hasCapital_of_lower valid.1).plain
    rw [if_neg (List.cons_ne_nil _ _), snakeCase_methodName_of_nonempty some named, snakeCase,
      spelled, snakeChars_plain plain]
    simp [plain]

/-- Different operations have different bodies. -/
theorem eq_of_snakeCase_methodName {other : String}
    (named' : isOperationName true other.toList = true)
    (same : snakeCase (methodName start name) = snakeCase (methodName start other)) :
    name = other := by
  have spelled := congrArg String.toList same
  rw [toList_snakeCase_methodName valid named, toList_snakeCase_methodName valid named'] at spelled
  split at spelled
  · exact String.toList_inj.mp spelled
  · rw [List.append_cancel_left_eq, List.cons.injEq] at spelled
    exact String.toList_inj.mp spelled.2

/-- A body starts with a lower case letter. -/
theorem snakeCase_methodName_cons : ∃ first rest,
    (snakeCase (methodName start name)).toList = first :: rest ∧
      Config.isAsciiLower first = true := by
  rw [toList_snakeCase_methodName valid named]
  rcases methodName_cases valid named with
    ⟨first, rest, empty, spelled, lower, -, -⟩ | ⟨first, rest, spelled, lower, -, -⟩
  · exact ⟨first, rest, by rw [if_pos empty, spelled], lower⟩
  · refine ⟨first, snakeChars rest ++ '_' :: name.toList, ?_, lower⟩
    rw [spelled, if_neg (List.cons_ne_nil _ _), snakeChars_plain (hasCapital_of_lower lower).plain,
      List.cons_append]

end Method

/-! ### The characters of these names -/

theorem ascii_of_lower_or_digit {c : Char} (listed : (Config.isAsciiLower c || c.isDigit) = true) :
    isAsciiAlphanumeric c = true := by
  rw [Bool.or_eq_true] at listed
  rcases listed with lower | digit
  · exact (hasCapital_of_lower lower).alphanumeric
  · exact (plain_of_digit digit).2

theorem ascii_operationName {start : Bool} {name : List Char}
    (named : isOperationName start name = true) :
    ∀ c ∈ name, isAsciiAlphanumeric c = true ∨ c = '_' := by
  induction name generalizing start with
  | nil => exact fun c listed => absurd listed List.not_mem_nil
  | cons first rest ih =>
    rw [List.forall_mem_cons]
    cases start with
    | true =>
      rw [isOperationName, Bool.and_eq_true] at named
      exact ⟨.inl (hasCapital_of_lower named.1).alphanumeric, ih named.2⟩
    | false =>
      rw [isOperationName] at named
      split at named
      · rename_i underscore
        exact ⟨.inr underscore, ih named⟩
      · rw [Bool.and_eq_true] at named
        exact ⟨.inl (ascii_of_lower_or_digit named.1), ih named.2⟩

/-- Camel case has no underscore left. -/
theorem ascii_camelChars {start : Bool} {name : List Char}
    (named : isOperationName start name = true) :
    ∀ c ∈ camelChars start name, isAsciiAlphanumeric c = true := by
  induction name generalizing start with
  | nil => exact fun c listed => absurd listed List.not_mem_nil
  | cons first rest ih =>
    cases start with
    | true =>
      rw [isOperationName, Bool.and_eq_true] at named
      have capital := hasCapital_of_lower named.1
      rw [camelChars, if_neg capital.ne_underscore, if_pos rfl, upperCase_of_lower named.1,
        List.singleton_append, List.forall_mem_cons]
      exact ⟨capital.capital_alphanumeric, ih named.2⟩
    | false =>
      rw [isOperationName] at named
      split at named
      · rename_i underscore
        rw [camelChars, if_pos underscore]
        exact ih named
      · rename_i letter
        rw [Bool.and_eq_true] at named
        rw [camelChars, if_neg letter, if_neg Bool.false_ne_true, List.forall_mem_cons]
        exact ⟨ascii_of_lower_or_digit named.1, ih named.2⟩

theorem ascii_toLower {c : Char} (alphanumeric : isAsciiAlphanumeric c = true) :
    isAsciiAlphanumeric c.toLower = true :=
  forall_ascii (P := fun c => isAsciiAlphanumeric c = true → isAsciiAlphanumeric c.toLower = true)
    (by decide +kernel) (toNat_lt_of_alphanumeric alphanumeric) alphanumeric

theorem ascii_snakeChars {name : List Char} (ascii : ∀ c ∈ name, isAsciiAlphanumeric c = true) :
    ∀ c ∈ snakeChars name, isAsciiAlphanumeric c = true ∨ c = '_' := by
  intro c listed
  obtain ⟨letter, ofName, listed⟩ := List.mem_flatMap.mp listed
  have alphanumeric := ascii letter ofName
  split at listed
  · rcases List.mem_cons.mp listed with underscore | listed
    · exact .inr underscore
    · exact .inl (List.mem_singleton.mp listed ▸ ascii_toLower alphanumeric)
  · exact .inl (List.mem_singleton.mp listed ▸ alphanumeric)

theorem ascii_methodStart {start : List Char} (valid : Config.isMethodStart start = true) :
    ∀ c ∈ start, isAsciiAlphanumeric c = true := by
  cases start with
  | nil => exact fun c listed => absurd listed List.not_mem_nil
  | cons first rest =>
    rw [Config.isMethodStart, Bool.and_eq_true, List.all_eq_true] at valid
    exact List.forall_mem_cons.mpr ⟨(hasCapital_of_lower valid.1).alphanumeric, valid.2⟩

theorem startsIdentifier_of_lower {c : Char} (lower : Config.isAsciiLower c = true) :
    Text.startsIdentifier c = true :=
  forall_ascii (P := fun c => Config.isAsciiLower c = true → Text.startsIdentifier c = true)
    (by decide +kernel) (toNat_lt_of_lower lower) lower

/-- The name of an operation is an identifier. -/
theorem ofText_operationName {name : String} (named : isOperationName true name.toList = true) :
    Identifier.ofText name = .ok ⟨name, false⟩ := by
  obtain ⟨first, rest, spelled, lower, -⟩ := isOperationName_cons named
  exact ofText_ascii spelled (startsIdentifier_of_lower lower) (hasCapital_of_lower lower).notDigit
    (ascii_operationName named)

section Method

variable {start name : String} (valid : Config.isMethodStart start.toList = true)
  (named : isOperationName true name.toList = true)

include valid named

theorem ascii_methodName : ∀ c ∈ (methodName start name).toList, isAsciiAlphanumeric c = true := by
  rcases methodName_cases valid named with
    ⟨first, rest, -, -, lower, continued, camel⟩ | ⟨first, rest, -, lower, ascii, camel⟩
  · rw [camel, List.forall_mem_cons]
    exact ⟨(hasCapital_of_lower lower).alphanumeric, ascii_camelChars continued⟩
  · rw [camel, List.forall_mem_cons, List.forall_mem_append]
    exact ⟨(hasCapital_of_lower lower).alphanumeric, ascii, ascii_camelChars named⟩

/-- The name of a body is an identifier. -/
theorem ofText_bodyName : Identifier.ofText (snakeCase (methodName start name)) =
    .ok ⟨snakeCase (methodName start name), false⟩ := by
  obtain ⟨first, rest, spelled, lower⟩ := snakeCase_methodName_cons valid named
  apply ofText_ascii spelled (startsIdentifier_of_lower lower) (hasCapital_of_lower lower).notDigit
  rw [toList_snakeCase_methodName valid named]
  split
  · exact ascii_operationName named
  · rw [List.forall_mem_append, List.forall_mem_cons]
    exact ⟨ascii_snakeChars (ascii_methodStart valid), .inr rfl, ascii_operationName named⟩

/-- The symbol of the method can be read back. -/
theorem isReadableMethod_methodName : IsReadableMethod (methodName start name).toList := by
  have ascii := ascii_methodName valid named
  constructor
  · intro dot
    exact absurd (ascii '.' dot) (by decide)
  · intro separator
    exact absurd (ascii '/' separator) (by decide)
  · have digits : (escapeDigits.all fun digit => !Config.isAsciiLower digit) = true := by
      decide +kernel
    intro c front escape
    have lower : Config.isAsciiLower c = true := by
      rcases methodName_cases valid named with
        ⟨first, rest, -, -, lower, -, camel⟩ | ⟨first, rest, -, lower, -, camel⟩
      all_goals
        rw [camel, List.head?_cons, Option.mem_some_iff] at front
        exact front ▸ lower
    have notLower := List.all_eq_true.mp digits c escape
    rw [lower] at notLower
    contradiction

end Method

end SqliteBridge.Binding
