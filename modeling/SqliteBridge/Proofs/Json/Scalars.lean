import Mathlib.Data.List.TakeWhile
import SqliteBridge.Json.Composite

/-! Scalars in JSON text. What is written for a text, an integer or a truth value reads back,
whatever follows, if that can follow a value: a number ends where no digit and no point does. -/
namespace SqliteBridge.Json

variable {α β : Type}

theorem hexValue_hexDigit (n : Nat) : hexValue? (hexDigit n) = some (n % 16) := by
  have small : ∀ digit < 16, hexValue? digit.digitChar = some digit := by decide
  exact small (n % 16) (Nat.mod_lt _ (by decide))

/-! ### Readers -/

/-- The rest of a text after a value inside it, or nothing. -/
def Ends (rest : List Char) : Prop := ∀ c ∈ rest.head?, c = ',' ∨ c = ']' ∨ c = '}'

/-- The reader takes the value from the text and leaves what follows it. -/
def Reads (read : Reader α) (text : List Char) (value : α) : Prop :=
  ∀ rest, Ends rest → read.run (text ++ rest) = .ok (value, rest)

theorem ends_nil : Ends [] := nofun

theorem ends_comma (rest : List Char) : Ends (',' :: rest) := by
  rintro c ⟨⟩
  exact .inl rfl

theorem ends_bracket (rest : List Char) : Ends (']' :: rest) := by
  rintro c ⟨⟩
  exact .inr (.inl rfl)

theorem ends_brace (rest : List Char) : Ends ('}' :: rest) := by
  rintro c ⟨⟩
  exact .inr (.inr rfl)

theorem run_bind_ok {first : Reader α} {next : α → Reader β} {text rest : List Char} {a : α}
    (ran : first.run text = .ok (a, rest)) : (first >>= next).run text = (next a).run rest := by
  rw [StateT.run_bind, ran]
  rfl

theorem run_bind_eq_ok {first : Reader α} {next : α → Reader β} {text : List Char}
    {result : β × List Char} (ran : (first >>= next).run text = .ok result) :
    ∃ a rest, first.run text = .ok (a, rest) ∧ (next a).run rest = .ok result := by
  rw [StateT.run_bind] at ran
  cases begun : first.run text with
  | error fault =>
    rw [begun] at ran
    contradiction
  | ok outcome =>
    rw [begun] at ran
    exact ⟨outcome.1, outcome.2, rfl, ran⟩

theorem run_map_eq_ok {read : Reader α} {f : α → β} {text rest : List Char} {value : β}
    (ran : (f <$> read).run text = .ok (value, rest)) :
    ∃ a, read.run text = .ok (a, rest) ∧ f a = value := by
  rw [StateT.run_map] at ran
  cases gave : read.run text with
  | error fault =>
    rw [gave] at ran
    contradiction
  | ok outcome =>
    rw [gave] at ran
    obtain ⟨same, same'⟩ := Prod.mk.inj (Except.ok.inj ran)
    exact ⟨outcome.1, congrArg (fun rest => Except.ok (outcome.1, rest)) same', same⟩

theorem peek_run (text : List Char) :
    peek.run text = .ok ((text.dropWhile isBlank).head?, text.dropWhile isBlank) := rfl

theorem peek_cons {c : Char} (solid : isBlank c = false) (rest : List Char) :
    peek.run (c :: rest) = .ok (some c, c :: rest) := by
  have kept : (c :: rest).dropWhile isBlank = c :: rest := by
    rw [List.dropWhile_cons, solid]
    rfl
  rw [peek_run, kept]
  rfl

theorem Reads.map {read : Reader α} {text : List Char} {value : α} (reads : Reads read text value)
    (f : α → β) : Reads (f <$> read) text (f value) := by
  intro rest ends
  rw [StateT.run_map, reads rest ends]
  rfl

/-- Only blanks may follow the value of a whole text. -/
theorem parse_eq_ok {read : Reader α} {text : String} {value : α} :
    parse read text = .ok value ↔
      ∃ rest, read.run text.toList = .ok (value, rest) ∧ ∀ c ∈ rest, isBlank c = true := by
  unfold parse
  cases ran : read.run text.toList with
  | error fault =>
    constructor
    · nofun
    · rintro ⟨_, ok, _⟩
      contradiction
  | ok outcome =>
    obtain ⟨value', rest⟩ := outcome
    change (if (rest.dropWhile isBlank).isEmpty then pure value' else throw Fault.malformed) = _ ↔ _
    simp only [List.isEmpty_iff, List.dropWhile_eq_nil_iff]
    split
    · rename_i blank
      constructor
      · rintro ⟨⟩
        exact ⟨rest, rfl, blank⟩
      · rintro ⟨_, same, _⟩
        cases same
        rfl
    · rename_i unread
      constructor
      · nofun
      · rintro ⟨_, same, blank⟩
        cases same
        exact absurd blank unread

theorem parse_of_reads {read : Reader α} {text : List Char} {value : α}
    (reads : Reads read text value) : parse read (.ofList text) = .ok value := by
  have ran := reads [] ends_nil
  rw [List.append_nil] at ran
  exact parse_eq_ok.mpr ⟨[], by rwa [String.toList_ofList], nofun⟩

/-! ### Words -/

theorem word_append (letters rest : List Char) : (word letters).run (letters ++ rest) = .ok ((), rest) := by
  induction letters with
  | nil => rfl
  | cons c letters ih =>
    change (if c = c then word letters (letters ++ rest) else _) = _
    rw [if_pos rfl]
    exact ih

theorem boolean_reads (b : Bool) : Reads boolean (writeBool b) b := by
  intro rest _
  cases b with
  | true =>
    refine (run_bind_ok (peek_cons (by decide) _)).trans ?_
    exact run_bind_ok (word_append trueWord rest)
  | false =>
    refine (run_bind_ok (peek_cons (by decide) _)).trans ?_
    exact run_bind_ok (word_append falseWord rest)

/-! ### Strings -/

/-- The escape of a character that has no shorter one. -/
theorem escape_unit {code : Nat} (control : code < 0x20) (text : List Char) :
    escape ('u' :: '0' :: '0' :: hexDigit (code / 16) :: hexDigit code :: text) =
      .ok (.ofNat code, 5) := by
  have zero : hexValue? '0' = some 0 := by decide
  have quad : hexQuad ('0' :: '0' :: hexDigit (code / 16) :: hexDigit code :: text) = .ok code := by
    simp only [hexQuad, zero, hexValue_hexDigit]
    exact congrArg Except.ok (by omega)
  have low : isLowSurrogate code = false := by simp [isLowSurrogate]; omega
  have high : isHighSurrogate code = false := by simp [isHighSurrogate]; omega
  simp only [escape, quad]
  change (if isLowSurrogate code then _ else if isHighSurrogate code then _ else _) = _
  rw [low, high]
  rfl

theorem stringBody_escaped {c : Char} {code text : List Char}
    (escaped : escape (code ++ text) = .ok (c, code.length)) :
    stringBody ('\\' :: code ++ text) =
      (stringBody text).map fun (body, rest) => (c :: body, rest) := by
  rw [List.cons_append, stringBody, if_neg (by decide), if_pos rfl, escaped]
  change (stringBody ((code ++ text).drop code.length)).bind _ = _
  rw [List.drop_left]
  cases stringBody text <;> rfl

theorem stringBody_plain {c : Char} (unquoted : c ≠ '"') (unescaped : c ≠ '\\')
    (printed : ¬ c.toNat < 0x20) (text : List Char) : stringBody (c :: text) =
      (stringBody text).map fun (body, rest) => (c :: body, rest) := by
  rw [stringBody, if_neg unquoted, if_neg unescaped, if_neg printed]
  cases stringBody text <;> rfl

theorem stringBody_writeChar (c : Char) (text : List Char) :
    stringBody (writeChar c ++ text) =
      (stringBody text).map fun (body, rest) => (c :: body, rest) := by
  unfold writeChar
  split
  case h_8 unquoted unescaped _ _ _ _ _ =>
    split
    · rename_i control
      have unit := escape_unit control text
      rw [Char.ofNat_toNat] at unit
      exact stringBody_escaped unit
    · rename_i printed
      exact stringBody_plain unquoted unescaped printed text
  all_goals exact stringBody_escaped rfl

theorem stringBody_flatMap (s rest : List Char) :
    stringBody (s.flatMap writeChar ++ '"' :: rest) = .ok (s, rest) := by
  induction s with
  | nil =>
    rw [List.flatMap_nil, List.nil_append, stringBody, if_pos rfl]
  | cons c s ih =>
    rw [List.flatMap_cons, List.append_assoc, stringBody_writeChar, ih]
    rfl

theorem quotedString_run (opening : Char) (text : List Char) :
    quotedString.run (opening :: text) =
      (stringBody text).map fun (body, rest) => (.ofList body, rest) := by
  refine (run_bind_ok (rfl : advance.run _ = .ok ((), _))).trans ?_
  refine (run_bind_ok (rfl : (get : Reader (List Char)).run _ = .ok (_, _))).trans ?_
  rw [StateT.run_bind]
  cases made : stringBody text <;> simp only [List.tail_cons, made] <;> rfl

theorem quotedString_reads (s : String) (rest : List Char) :
    quotedString.run (writeString s ++ rest) = .ok (s, rest) := by
  have spelled : writeString s ++ rest = '"' :: (s.toList.flatMap writeChar ++ '"' :: rest) := by
    simp [writeString]
  rw [spelled, quotedString_run, stringBody_flatMap]
  exact congrArg (fun s => Except.ok (s, rest)) String.ofList_toList

theorem string_reads (s : String) : Reads string (writeString s) s := by
  intro rest _
  exact (run_bind_ok (peek_cons (by decide) _)).trans (quotedString_reads s rest)

/-! ### Integers -/

namespace Number

theorem head_toDigits {n : Nat} (zero : (Nat.toDigits 10 n).head? = some '0') : n = 0 := by
  induction n using Nat.strongRecOn with
  | ind n ih =>
    rcases Nat.lt_or_ge n 10 with small | large
    · rw [Nat.toDigits_of_lt_base small] at zero
      have table : ∀ digit < 10, [digit.digitChar].head? = some '0' → digit = 0 := by decide
      exact table n small zero
    · obtain ⟨first, more, spelled⟩ :=
        List.exists_cons_of_ne_nil (Nat.toDigits_ne_nil (n := n / 10))
      rw [Nat.toDigits_of_base_le (by decide) large, spelled] at zero
      have tenth := ih (n / 10) (by omega) (spelled ▸ zero)
      omega

theorem isDigit_toDigits (n : Nat) : ∀ c ∈ Nat.toDigits 10 n, c.isDigit = true := fun _ listed =>
  Nat.isDigit_of_mem_toDigits (by decide) (by decide) listed

theorem toDigits_cons (n : Nat) : ∃ first more, Nat.toDigits 10 n = first :: more ∧
    first.isDigit = true := by
  obtain ⟨first, more, spelled⟩ := List.exists_cons_of_ne_nil (Nat.toDigits_ne_nil (n := n))
  exact ⟨first, more, spelled, isDigit_toDigits n first (spelled ▸ List.mem_cons_self)⟩

theorem le_ofDigitChars (digits : List Char) (start : Nat) :
    start ≤ Nat.ofDigitChars 10 digits start := by
  induction digits generalizing start with
  | nil => exact Nat.le_of_eq Nat.ofDigitChars_nil.symm
  | cons c digits ih =>
    rw [Nat.ofDigitChars_cons]
    exact Nat.le_trans (by omega) (ih _)

/-- Digits whose value fits are all gathered. -/
theorem foldl_add {digits : List Char} {start : Nat}
    (fits : Nat.ofDigitChars 10 digits start ≤ digitLimit) :
    digits.foldl Gathered.add ⟨start, 0⟩ = ⟨Nat.ofDigitChars 10 digits start, 0⟩ := by
  induction digits generalizing start with
  | nil => rw [Nat.ofDigitChars_nil]; rfl
  | cons c digits ih =>
    rw [Nat.ofDigitChars_cons] at fits ⊢
    have next : start * 10 + digitValue c = 10 * start + (c.toNat - '0'.toNat) := by
      rw [Nat.mul_comm]
      rfl
    have added : Gathered.add ⟨start, 0⟩ c = ⟨10 * start + (c.toNat - '0'.toNat), 0⟩ := by
      have fits := Nat.le_trans (le_ofDigitChars digits _) fits
      simp only [Gathered.add, next]
      rw [if_pos ⟨trivial, fits⟩]
    rw [List.foldl_cons, added]
    exact ih fits

theorem takeDigits_append {digits rest : List Char} (all : ∀ c ∈ digits, c.isDigit = true)
    (ended : ∀ c ∈ rest.head?, c.isDigit = false) :
    takeDigits.run (digits ++ rest) = .ok (digits, rest) := by
  have none : rest.takeWhile Char.isDigit = [] ∧ rest.dropWhile Char.isDigit = rest := by
    cases rest with
    | nil => exact ⟨rfl, rfl⟩
    | cons c rest =>
      have stop := ended c rfl
      rw [List.takeWhile_cons, List.dropWhile_cons, stop]
      exact ⟨rfl, rfl⟩
  change Except.ok ((digits ++ rest).takeWhile _, (digits ++ rest).dropWhile _) = _
  rw [List.takeWhile_append_of_pos all, List.dropWhile_append_of_pos all, none.1, none.2,
    List.append_nil]

end Number

/-- No text that could follow a number goes on like one. -/
theorem Ends.head_ne {rest : List Char} (ends : Ends rest) :
    rest.head? ≠ some '.' ∧ rest.head? ≠ some 'e' ∧ rest.head? ≠ some 'E' := by
  refine ⟨?_, ?_, ?_⟩ <;> intro first <;> rcases ends _ first with h | h | h <;> revert h <;> decide

theorem Ends.notDigit {rest : List Char} (ends : Ends rest) :
    ∀ c ∈ rest.head?, c.isDigit = false := by
  intro c first
  rcases ends c first with rfl | rfl | rfl <;> decide

namespace Number

/-- The number of some digits alone. -/
def whole (isNegative : Bool) (gathered : Gathered) : Reader Number :=
  if gathered.dropped ≠ 0 then ofParts isNegative gathered.value gathered.dropped
  else if !isNegative then pure (.natural gathered.value)
  else if gathered.value = 0 ∨ 0x8000000000000000 < gathered.value then
    pure (.float (Binary64.ofInt gathered.value).negate)
  else pure (.negative (-(gathered.value : Int)))

/-- The number after the digits before its point. -/
def afterDigits (isNegative : Bool) (gathered : Gathered) : Reader Number := do
  match (← get).head? with
  | some '.' => fractionPart isNegative gathered.value gathered.dropped
  | some 'e' => exponentPart isNegative gathered.value gathered.dropped
  | some 'E' => exponentPart isNegative gathered.value gathered.dropped
  | _ => whole isNegative gathered

theorem unsigned_run (isNegative : Bool) (text : List Char) : (unsigned isNegative).run text =
    match text.head? with
    | none => .error .truncated
    | some c =>
      let digits := text.takeWhile Char.isDigit
      if !c.isDigit then .error .malformed
      else if digits.head? = some '0' ∧ 1 < digits.length then .error .malformed
      else (afterDigits isNegative (digits.foldl Gathered.add ⟨0, 0⟩)).run
        (text.dropWhile Char.isDigit) := by
  unfold unsigned
  refine (run_bind_ok (rfl : (get : Reader (List Char)).run _ = .ok (_, _))).trans ?_
  cases text.head? with
  | none => rfl
  | some c =>
    dsimp only
    split
    · rfl
    · refine (run_bind_ok (rfl : takeDigits.run _ = .ok (_, _))).trans ?_
      split <;> rfl

/-- What an integer of some digits is. -/
def ofDigits (isNegative : Bool) (n : Nat) : Number :=
  if !isNegative then .natural n
  else if n = 0 ∨ 0x8000000000000000 < n then .float (Binary64.ofInt n).negate
  else .negative (-(n : Int))

theorem unsigned_toDigits (isNegative : Bool) {n : Nat} (fits : n ≤ digitLimit) {rest : List Char}
    (ends : Ends rest) : (unsigned isNegative).run (Nat.toDigits 10 n ++ rest) =
      .ok (ofDigits isNegative n, rest) := by
  obtain ⟨first, more, spelled, digit⟩ := toDigits_cons n
  have taken := takeDigits_append (isDigit_toDigits n) ends.notDigit
  obtain ⟨front, back⟩ := Prod.mk.inj (Except.ok.inj taken)
  have alone : ¬ ((Nat.toDigits 10 n).head? = some '0' ∧ 1 < (Nat.toDigits 10 n).length) := by
    rintro ⟨zero, longer⟩
    rw [head_toDigits zero] at longer
    contradiction
  have head : (Nat.toDigits 10 n ++ rest).head? = some first := by rw [spelled]; rfl
  rw [unsigned_run, head]
  dsimp only
  rw [front, back, digit, if_neg (by decide), if_neg alone,
    foldl_add (by rwa [Nat.ofDigitChars_ten_toDigits]), Nat.ofDigitChars_ten_toDigits]
  unfold afterDigits
  refine (run_bind_ok (rfl : (get : Reader (List Char)).run _ = .ok (_, _))).trans ?_
  split
  · exact absurd ‹_› ends.head_ne.1
  · exact absurd ‹_› ends.head_ne.2.1
  · exact absurd ‹_› ends.head_ne.2.2
  · unfold whole ofDigits
    rw [if_neg fun dropped => dropped rfl]
    split
    · rfl
    · split <;> rfl

end Number

theorem writeInt_natural (n : Nat) : writeInt n = Nat.toDigits 10 n := by
  change (toString n).toList = _
  rw [Nat.toString_eq_repr, Nat.toList_repr]

theorem writeInt_negative (n : Nat) : writeInt (.negSucc n) = '-' :: Nat.toDigits 10 (n + 1) := by
  change ("-" ++ toString (n + 1)).toList = _
  rw [String.toList_append, Nat.toString_eq_repr, Nat.toList_repr]
  rfl

/-- An integer as a number. -/
def Number.ofInt : Int → Number
  | .ofNat n => .natural n
  | .negSucc n => .negative (.negSucc n)

theorem solid_of_digit {c : Char} (digit : c.isDigit = true) : isBlank c = false := by
  apply eq_false_of_ne_true
  intro blank
  simp only [isBlank, Bool.or_eq_true, beq_iff_eq] at blank
  rcases blank with ((rfl | rfl) | rfl) | rfl <;> contradiction

/-- A written integer is read as the integer, of either sign. -/
theorem number_writeInt (expected : String) {n : Int} (least : -0x8000000000000000 ≤ n)
    (largest : n ≤ Number.digitLimit) {rest : List Char} (ends : Ends rest) :
    (number expected).run (writeInt n ++ rest) = .ok (.ofInt n, rest) := by
  cases n with
  | ofNat n =>
    obtain ⟨first, more, spelled, digit⟩ := Number.toDigits_cons n
    have unsigned := Number.unsigned_toDigits false (Int.ofNat_le.mp largest) ends
    have positive : ¬ first = '-' := by
      rintro rfl
      contradiction
    rw [Int.ofNat_eq_natCast, writeInt_natural, spelled, List.cons_append]
    rw [spelled, List.cons_append] at unsigned
    refine (run_bind_ok (peek_cons (solid_of_digit digit) _)).trans ?_
    dsimp only
    rw [if_pos (.inr digit)]
    refine (run_bind_ok (rfl : (get : Reader (List Char)).run _ = .ok (_, _))).trans ?_
    rw [List.head?_cons, if_neg (by rwa [Option.some_inj])]
    exact unsigned
  | negSucc n =>
    have fits : n + 1 ≤ 0x8000000000000000 := by omega
    have unsigned := Number.unsigned_toDigits true
      (Nat.le_trans fits (by decide : 0x8000000000000000 ≤ Number.digitLimit)) ends
    have signed : Number.ofDigits true (n + 1) = .negative (.negSucc n) := by
      rw [Number.ofDigits, if_neg (by decide), if_neg (by omega)]
      rfl
    rw [writeInt_negative]
    refine (run_bind_ok (peek_cons (by decide) _)).trans ?_
    refine (run_bind_ok (rfl : (get : Reader (List Char)).run _ = .ok (_, _))).trans ?_
    refine (run_bind_ok (rfl : advance.run _ = .ok ((), _))).trans ?_
    exact unsigned.trans (by rw [signed]; rfl)

theorem integer_reads (expected : String) {low high n : Int} (least : -0x8000000000000000 ≤ low)
    (largest : high ≤ Number.digitLimit) (within : low ≤ n ∧ n ≤ high) :
    Reads (integer expected low high) (writeInt n) n := by
  intro rest ends
  have ran := number_writeInt expected (Int.le_trans least within.1)
    (Int.le_trans within.2 largest) ends
  refine (run_bind_ok ran).trans ?_
  cases n with
  | ofNat n => exact congrArg (StateT.run · rest) (if_pos within)
  | negSucc n => exact congrArg (StateT.run · rest) (if_pos within)

theorem writeInt_starts (n : Int) : ∃ first more, writeInt n = first :: more ∧
    (first = '-' ∨ first.isDigit = true) := by
  cases n with
  | ofNat n =>
    obtain ⟨first, more, spelled, digit⟩ := Number.toDigits_cons n
    exact ⟨first, more, (writeInt_natural n).trans spelled, .inr digit⟩
  | negSucc n => exact ⟨_, _, writeInt_negative n, .inl rfl⟩

/-! ### Optional values -/

/-- The text starts with a character that is no blank and not the given one. -/
def Starts (other : Char) (text : List Char) : Prop :=
  ∃ first more, text = first :: more ∧ isBlank first = false ∧ first ≠ other

/-- A value that is not taken for the word of a missing one. -/
theorem optional_reads {read : Reader α} {write : α → List Char} {value? : Option α}
    (reads : ∀ value ∈ value?, Reads read (write value) value ∧ Starts 'n' (write value)) :
    Reads (optional read) (writeOption write value?) value? := by
  intro rest ends
  cases value? with
  | none =>
    refine (run_bind_ok (peek_cons (by decide) _)).trans ?_
    exact run_bind_ok (word_append nullWord rest)
  | some value =>
    obtain ⟨reads, first, more, spelled, solid, different⟩ := reads value rfl
    have ran := reads rest ends
    rw [spelled, List.cons_append] at ran
    rw [writeOption, spelled, List.cons_append]
    refine (run_bind_ok (peek_cons solid _)).trans ?_
    split
    · rename_i same
      exact absurd (Option.some_inj.mp same) different
    · rw [StateT.run_map, ran]
      rfl

theorem optional_string_reads (s? : Option String) :
    Reads (optional string) (writeOption writeString s?) s? :=
  optional_reads fun s _ => ⟨string_reads s, '"', _, rfl, by decide, by decide⟩

end SqliteBridge.Json
