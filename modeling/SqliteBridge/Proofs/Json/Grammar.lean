import SqliteBridge.Proofs.Json.Composites

/-! JSON text as anybody may write it: blanks between any two tokens, every escape of a character,
the members of an object in any order and under any name. A value is kept as it is spelled, and
only what a reader makes of it is its meaning. -/
namespace SqliteBridge.Json

variable {α β : Type}

/-! ### Strings -/

/-- The escapes of one letter. -/
inductive ShortEscape where
  | quote
  | backslash
  | slash
  | backspace
  | formFeed
  | lineFeed
  | carriageReturn
  | tab

namespace ShortEscape

def letter : ShortEscape → Char
  | quote => '"'
  | backslash => '\\'
  | slash => '/'
  | backspace => 'b'
  | formFeed => 'f'
  | lineFeed => 'n'
  | carriageReturn => 'r'
  | tab => 't'

def meaning : ShortEscape → Char
  | quote => '"'
  | backslash => '\\'
  | slash => '/'
  | backspace => '\x08'
  | formFeed => '\x0c'
  | lineFeed => '\n'
  | carriageReturn => '\r'
  | tab => '\t'

end ShortEscape

/-- A hexadecimal digit, in either case. -/
structure HexDigit where
  value : Fin 16
  upper : Bool

def HexDigit.char (digit : HexDigit) : Char :=
  if digit.upper then digit.value.val.digitChar.toUpper else digit.value.val.digitChar

/-- The digits of a `\u` escape. -/
structure CodeUnit where
  first : HexDigit
  second : HexDigit
  third : HexDigit
  fourth : HexDigit

namespace CodeUnit

def value (unit : CodeUnit) : Nat :=
  ((unit.first.value.val * 16 + unit.second.value.val) * 16 + unit.third.value.val) * 16
    + unit.fourth.value.val

def text (unit : CodeUnit) : List Char :=
  [unit.first.char, unit.second.char, unit.third.char, unit.fourth.char]

end CodeUnit

/-- One character of a string as it is spelled, or half of one: a character outside the basic
plane takes two `\u` escapes. -/
inductive Piece where
  | plain (c : Char) (allowed : c ≠ '"' ∧ c ≠ '\\' ∧ 0x20 ≤ c.toNat)
  | short (escape : ShortEscape)
  | codeUnit (unit : CodeUnit)

namespace Piece

def text : Piece → List Char
  | plain c _ => [c]
  | short escape => ['\\', escape.letter]
  | codeUnit unit => '\\' :: 'u' :: unit.text

end Piece

/-- Characters that stand for themselves. -/
def plainPieces (chars : List Char)
    (allowed : chars.all fun c => c ≠ '"' ∧ c ≠ '\\' ∧ 0x20 ≤ c.toNat) : List Piece :=
  chars.attach.map fun c => .plain c.1 (of_decide_eq_true (List.all_eq_true.mp allowed c.1 c.2))

/-- A string between its quotes. -/
def quotedText (pieces : List Piece) : List Char := '"' :: pieces.flatMap Piece.text ++ ['"']

/-- The character that two halves of a surrogate pair stand for. -/
def pairChar (high low : Nat) : Char :=
  .ofNat (0x10000 + (high - 0xd800) * 0x400 + (low - 0xdc00))

/-- The characters that a string stands for. There are none if half of a pair has no partner. -/
def spelledChars? : List Piece → Option (List Char)
  | [] => some []
  | .plain c _ :: rest => (spelledChars? rest).map (c :: ·)
  | .short escape :: rest => (spelledChars? rest).map (escape.meaning :: ·)
  | .codeUnit unit :: rest =>
    if isLowSurrogate unit.value then none
    else if isHighSurrogate unit.value then
      match rest with
      | .codeUnit low :: rest =>
        if isLowSurrogate low.value then
          (spelledChars? rest).map (pairChar unit.value low.value :: ·)
        else none
      | _ => none
    else (spelledChars? rest).map (.ofNat unit.value :: ·)

/-- The text that a string stands for. -/
def spelledText? (pieces : List Piece) : Option String := (spelledChars? pieces).map .ofList

/-! ### Values -/

/-- Blanks between two tokens. -/
structure Blanks where
  chars : List Char
  blank : ∀ c ∈ chars, isBlank c = true

def Blanks.none : Blanks := ⟨[], nofun⟩

def Blanks.append (before after : Blanks) : Blanks where
  chars := before.chars ++ after.chars
  blank := fun c listed => (List.mem_append.mp listed).elim (before.blank c) (after.blank c)

/-- Something with blanks around it. -/
structure Spaced (α : Type) where
  before : Blanks
  value : α
  after : Blanks

def Spaced.tight (value : α) : Spaced α := ⟨.none, value, .none⟩

def Spaced.text (text : α → List Char) (spaced : Spaced α) : List Char :=
  spaced.before.chars ++ text spaced.value ++ spaced.after.chars

structure Digits where
  first : Fin 10
  more : List (Fin 10)

def Digits.text (digits : Digits) : List Char :=
  (digits.first :: digits.more).map fun digit => digit.val.digitChar

structure Exponent where
  letter : Char
  isLetter : letter = 'e' ∨ letter = 'E'
  sign? : Option Char
  isSign : ∀ sign ∈ sign?, sign = '+' ∨ sign = '-'
  digits : Digits

def Exponent.text (exponent : Exponent) : List Char :=
  exponent.letter :: exponent.sign?.toList ++ exponent.digits.text

/-- A number as it is spelled. Only zero starts with a zero. -/
structure Numeral where
  isNegative : Bool
  whole : Digits
  noLeadingZero : whole.first = 0 → whole.more = []
  fraction? : Option Digits
  exponent? : Option Exponent

def Numeral.text (numeral : Numeral) : List Char :=
  (if numeral.isNegative then ['-'] else []) ++ numeral.whole.text
    ++ numeral.fraction?.elim [] (fun digits => '.' :: digits.text)
    ++ numeral.exponent?.elim [] Exponent.text

/-- A member of an object, with values of some kind. -/
structure Member (α : Type) where
  key : Spaced (List Piece)
  value : Spaced α

def Member.text (text : α → List Char) (member : Member α) : List Char :=
  member.key.text quotedText ++ ':' :: member.value.text text

/-- A value as it is spelled. The blanks inside brackets are there for empty brackets. -/
inductive Spelling where
  | null
  | boolean (value : Bool)
  | number (numeral : Numeral)
  | string (pieces : List Piece)
  | array (inner : Blanks) (items : List (Spaced Spelling))
  | object (inner : Blanks) (members : List (Member Spelling))

namespace Spelling

mutual

def text : Spelling → List Char
  | null => nullWord
  | boolean value => writeBool value
  | number numeral => numeral.text
  | string pieces => quotedText pieces
  | array inner items => '[' :: (inner.chars ++ commaSeparated (itemTexts items)) ++ [']']
  | object inner members => '{' :: (inner.chars ++ commaSeparated (memberTexts members)) ++ ['}']

def itemTexts : List (Spaced Spelling) → List (List Char)
  | [] => []
  | ⟨before, value, after⟩ :: items =>
    (before.chars ++ value.text ++ after.chars) :: itemTexts items

def memberTexts : List (Member Spelling) → List (List Char)
  | [] => []
  | ⟨key, ⟨before, value, after⟩⟩ :: members =>
    (key.text quotedText ++ ':' :: (before.chars ++ value.text ++ after.chars)) ::
      memberTexts members

end

theorem memberTexts_eq (members : List (Member Spelling)) :
    memberTexts members = members.map (Member.text text) := by
  induction members with
  | nil => rfl
  | cons member members ih => exact congrArg _ ih

/-- The text of a value that is a string. -/
def content? : Spelling → Option String
  | string pieces => spelledText? pieces
  | _ => none

/-- The text of a value that is a string, or nothing for `null`. -/
def optionalContent? : Spelling → Option (Option String)
  | null => some none
  | value => value.content?.map some

end Spelling

/-- The name of a member, if its key stands for a text. -/
def Member.name? (member : Member α) : Option String := spelledText? member.key.value

/-- An object with blanks around it and, if it is empty, inside it. -/
structure Document where
  before : Blanks
  inner : Blanks
  members : List (Member Spelling)
  after : Blanks

def Document.text (document : Document) : String :=
  .ofList (Spaced.text Spelling.text
    ⟨document.before, .object document.inner document.members, document.after⟩)

/-! ### What a reader makes of it -/

/-- One reader after the other, up to the fault that is met. -/
theorem toOption_bind (first : Reader α) (next : α → Reader β) (text : List Char) :
    ((first >>= next).run text).toOption =
      (first.run text).toOption.bind fun (a, rest) => ((next a).run rest).toOption := by
  rw [StateT.run_bind]
  cases first.run text <;> rfl

theorem toOption_bind_ok {first : Reader α} {next : α → Reader β} {text rest : List Char} {a : α}
    (ran : first.run text = .ok (a, rest)) :
    ((first >>= next).run text).toOption = ((next a).run rest).toOption :=
  congrArg Except.toOption (run_bind_ok ran)

theorem toOption_run_map (f : α → β) (read : Reader α) (text : List Char) :
    ((f <$> read).run text).toOption =
      (read.run text).toOption.map fun (a, rest) => (f a, rest) := by
  rw [StateT.run_map]
  cases read.run text <;> rfl

theorem toOption_map (f : α → β) (result : Except Fault α) :
    (result.map f).toOption = result.toOption.map f := by
  cases result <;> rfl

theorem toOption_eq_some_iff {result : Except Fault α} {value : α} :
    result.toOption = some value ↔ result = .ok value := by
  cases result <;> simp [Except.toOption]

theorem peek_blanks (before : Blanks) {c : Char} (solid : isBlank c = false) (rest : List Char) :
    peek.run (before.chars ++ c :: rest) = .ok (some c, c :: rest) := by
  rw [peek_run, List.dropWhile_append_of_pos before.blank]
  exact peek_cons solid rest

theorem hexValue_char (digit : HexDigit) : hexValue? digit.char = some digit.value.val := by
  have table : ∀ upper, ∀ value : Fin 16,
      hexValue? (HexDigit.char ⟨value, upper⟩) = some value.val := by decide
  exact table digit.upper digit.value

theorem hexQuad_unit (unit : CodeUnit) (rest : List Char) :
    hexQuad (unit.text ++ rest) = .ok unit.value := by
  simp only [CodeUnit.text, List.cons_append, List.nil_append, hexQuad, hexValue_char]
  rfl

theorem escape_short (escape : ShortEscape) (rest : List Char) :
    Json.escape (escape.letter :: rest) = .ok (escape.meaning, 1) := by
  cases escape <;> rfl

/-- The escape of a code unit by what follows its digits. -/
theorem escape_codeUnit (unit : CodeUnit) (rest : List Char) :
    escape ('u' :: (unit.text ++ rest)) =
      if isLowSurrogate unit.value then .error .malformed
      else if isHighSurrogate unit.value then
        match rest with
        | [] => .error .truncated
        | ['\\'] => .error .truncated
        | '\\' :: 'u' :: after => do
          let low ← hexQuad after
          if isLowSurrogate low then .ok (pairChar unit.value low, 11) else .error .malformed
        | _ => .error .malformed
      else .ok (.ofNat unit.value, 5) := by
  have dropped : (unit.text ++ rest).drop 4 = rest := rfl
  simp only [escape, hexQuad_unit, dropped]
  rfl

theorem stringBody_refused {text : List Char} (refused : (escape text).toOption = none) :
    (stringBody ('\\' :: text)).toOption = none := by
  rw [stringBody, if_neg (by decide), if_pos rfl]
  cases made : escape text with
  | error fault => rfl
  | ok escaped =>
    rw [made] at refused
    contradiction

/-- One more character in front of a string. -/
theorem stringBody_next {c : Char} {front text rest : List Char} {chars? : Option (List Char)}
    (next : stringBody front = (stringBody text).map fun (body, rest) => (c :: body, rest))
    (read : (stringBody text).toOption = chars?.map fun chars => (chars, rest)) :
    (stringBody front).toOption = (chars?.map (c :: ·)).map fun chars => (chars, rest) := by
  rw [next, toOption_map, read, Option.map_map, Option.map_map]
  rfl

/-- A high surrogate is not followed by the escape of a low one. -/
theorem escape_unpaired {unit : CodeUnit} (notLow : isLowSurrogate unit.value = false)
    (high : isHighSurrogate unit.value = true) {pieces : List Piece}
    (unpaired : ∀ low rest, pieces = .codeUnit low :: rest → isLowSurrogate low.value = false)
    (rest : List Char) :
    (escape ('u' :: (unit.text ++ (pieces.flatMap Piece.text ++ '"' :: rest)))).toOption =
      none := by
  rw [escape_codeUnit, notLow, high, if_neg nofun, if_pos rfl]
  match pieces with
  | [] => rfl
  | .plain c allowed :: pieces =>
    rw [List.flatMap_cons, Piece.text, List.cons_append]
    split
    · contradiction
    · rename_i same
      exact absurd (List.cons.inj same).1 allowed.2.1
    · rename_i same
      exact absurd (List.cons.inj same).1 allowed.2.1
    · rfl
  | .short escape :: pieces => cases escape <;> rfl
  | .codeUnit low :: pieces =>
    have quad := hexQuad_unit low (pieces.flatMap Piece.text ++ '"' :: rest)
    rw [List.flatMap_cons, Piece.text, List.cons_append, List.cons_append, List.cons_append,
      List.cons_append, List.append_assoc]
    change ((hexQuad (low.text ++ _)).bind fun low =>
      if isLowSurrogate low then .ok (pairChar unit.value low, 11)
      else .error .malformed).toOption = _
    rw [quad]
    exact congrArg Except.toOption (if_neg (by rw [unpaired low pieces rfl]; nofun))

/-- A high surrogate and the low one behind it. -/
theorem escape_pair {unit low : CodeUnit} (notLow : isLowSurrogate unit.value = false)
    (high : isHighSurrogate unit.value = true) (paired : isLowSurrogate low.value = true)
    (rest : List Char) :
    escape ('u' :: (unit.text ++ '\\' :: 'u' :: (low.text ++ rest))) =
      .ok (pairChar unit.value low.value, 11) := by
  rw [escape_codeUnit, notLow, high, if_neg nofun, if_pos rfl]
  change (hexQuad (low.text ++ rest)).bind _ = _
  rw [hexQuad_unit]
  exact if_pos paired

/-- A string is read as the characters that it stands for, or not at all. -/
theorem stringBody_pieces (pieces : List Piece) (rest : List Char) :
    (stringBody (pieces.flatMap Piece.text ++ '"' :: rest)).toOption =
      (spelledChars? pieces).map fun chars => (chars, rest) := by
  fun_induction spelledChars? pieces with
  | case1 =>
    rw [List.flatMap_nil, List.nil_append, stringBody, if_pos rfl]
    rfl
  | case2 c allowed pieces ih =>
    rw [List.flatMap_cons, List.append_assoc]
    exact stringBody_next
      (stringBody_plain allowed.1 allowed.2.1 (Nat.not_lt.mpr allowed.2.2) _) ih
  | case3 escape pieces ih =>
    rw [List.flatMap_cons, List.append_assoc]
    exact stringBody_next (@stringBody_escaped _ [escape.letter] _ (escape_short escape _)) ih
  | case4 unit pieces low =>
    have alone := escape_codeUnit unit (pieces.flatMap Piece.text ++ '"' :: rest)
    rw [if_pos low] at alone
    rw [List.flatMap_cons, List.append_assoc]
    exact stringBody_refused (congrArg Except.toOption alone)
  | case5 unit notLow high low pieces paired ih =>
    have pair := escape_pair (eq_false_of_ne_true notLow) high paired
      (pieces.flatMap Piece.text ++ '"' :: rest)
    rw [List.flatMap_cons, List.flatMap_cons, List.append_assoc, List.append_assoc]
    exact stringBody_next
      (@stringBody_escaped _ ('u' :: (unit.text ++ '\\' :: 'u' :: low.text)) _ pair) ih
  | case6 unit notLow high low pieces unpaired =>
    rw [List.flatMap_cons, List.append_assoc]
    refine stringBody_refused (escape_unpaired (eq_false_of_ne_true notLow) high ?_ rest)
    rintro _ _ ⟨⟩
    exact eq_false_of_ne_true unpaired
  | case7 unit pieces notLow high alone =>
    rw [List.flatMap_cons, List.append_assoc]
    refine stringBody_refused (escape_unpaired (eq_false_of_ne_true notLow) high ?_ rest)
    intro low pieces same
    exact absurd same (alone low pieces)
  | case8 unit pieces notLow notHigh ih =>
    have alone := escape_codeUnit unit (pieces.flatMap Piece.text ++ '"' :: rest)
    rw [if_neg notLow, if_neg notHigh] at alone
    rw [List.flatMap_cons, List.append_assoc]
    exact stringBody_next (@stringBody_escaped _ ('u' :: unit.text) _ alone) ih

/-- A key or a string value is read as the text that it stands for, or not at all. -/
theorem quotedString_pieces (pieces : List Piece) (rest : List Char) :
    (quotedString.run (quotedText pieces ++ rest)).toOption =
      (spelledText? pieces).map fun text => (text, rest) := by
  have spelled : quotedText pieces ++ rest = '"' :: (pieces.flatMap Piece.text ++ '"' :: rest) := by
    simp [quotedText]
  rw [spelled, quotedString_run, toOption_map, stringBody_pieces, spelledText?, Option.map_map,
    Option.map_map]
  rfl

/-! The first character of a value tells whether it is a string, and whether it is `null`. -/

theorem Numeral.text_starts (numeral : Numeral) :
    ∃ first more, numeral.text = first :: more ∧ (first = '-' ∨ first.isDigit = true) := by
  have digit : ∀ value : Fin 10, value.val.digitChar.isDigit = true := by decide
  obtain ⟨isNegative, whole, _, _, _⟩ := numeral
  cases isNegative with
  | true => exact ⟨_, _, rfl, .inl rfl⟩
  | false => exact ⟨_, _, rfl, .inr (digit whole.first)⟩

theorem Spelling.text_starts (value : Spelling) :
    ∃ first more, value.text = first :: more ∧ isBlank first = false ∧
      (first = '"' → ∃ pieces, value = .string pieces) ∧ (first = 'n' → value = .null) := by
  have other {c first : Char} (different : c ≠ first) {P : Prop} : c = first → P :=
    fun same => absurd same different
  cases value with
  | null => exact ⟨_, _, rfl, by decide, other (by decide), fun _ => rfl⟩
  | boolean value =>
    cases value <;> exact ⟨_, _, rfl, by decide, other (by decide), other (by decide)⟩
  | number numeral =>
    obtain ⟨first, more, spelled, number⟩ := numeral.text_starts
    rw [text, spelled]
    rcases number with rfl | digit
    · exact ⟨_, _, rfl, by decide, other (by decide), other (by decide)⟩
    · refine ⟨_, _, rfl, solid_of_digit digit, ?_, ?_⟩ <;>
      · rintro rfl
        contradiction
  | string pieces =>
    exact ⟨_, _, by rw [text]; rfl, by decide, fun _ => ⟨pieces, rfl⟩, other (by decide)⟩
  | array inner items =>
    exact ⟨_, _, by rw [text]; rfl, by decide, other (by decide), other (by decide)⟩
  | object inner members =>
    exact ⟨_, _, by rw [text]; rfl, by decide, other (by decide), other (by decide)⟩

/-- Nothing has a kind that it has not. -/
theorem mismatch_refuses (expected : String) (text : List Char) :
    ((mismatch expected : Reader α).run text).toOption = none := by
  have thrown {β : Type} (first : Reader β) (fault : β → Fault) (text : List Char) :
      ((first >>= fun b => (throw (fault b) : Reader α)).run text).toOption = none := by
    rw [toOption_bind]
    cases first.run text <;> rfl
  unfold mismatch
  refine (toOption_bind_ok (peek_run text)).trans ?_
  split
  · exact thrown ..
  · exact thrown ..
  · exact thrown ..
  · exact thrown ..
  · rfl
  · rfl
  · split
    · exact thrown ..
    · rfl
  · rfl

/-- The reader takes a value, with any blanks before it, for its content; it refuses a value that
has none. -/
def Takes (read : Reader α) (content? : Spelling → Option α) : Prop :=
  ∀ (before : Blanks) (value : Spelling) (rest : List Char),
    (read.run (before.chars ++ (value.text ++ rest))).toOption =
      (content? value).map fun content => (content, rest)

theorem Takes.map {read : Reader α} {content? : Spelling → Option α} (takes : Takes read content?)
    (f : α → β) : Takes (f <$> read) fun value => (content? value).map f := by
  intro before value rest
  rw [toOption_run_map, takes, Option.map_map, Option.map_map]
  rfl

theorem string_takes : Takes string Spelling.content? := by
  intro before value rest
  by_cases quoted : ∃ pieces, value = .string pieces
  · obtain ⟨pieces, rfl⟩ := quoted
    rw [Spelling.content?, Spelling.text, ← quotedString_pieces]
    exact toOption_bind_ok (peek_blanks before (by decide) _)
  · have none : value.content? = none := by
      cases value with
      | string pieces => exact absurd ⟨pieces, rfl⟩ quoted
      | null | boolean _ | number _ | array _ _ | object _ _ => rfl
    obtain ⟨first, more, spelled, solid, isString, _⟩ := value.text_starts
    rw [spelled, none, List.cons_append]
    refine (toOption_bind_ok (peek_blanks before solid _)).trans ?_
    split
    · contradiction
    · rename_i same
      exact absurd (isString (Option.some_inj.mp same)) quoted
    · exact mismatch_refuses ..

theorem optional_string_takes : Takes (optional string) Spelling.optionalContent? := by
  intro before value rest
  by_cases null : value = .null
  · subst null
    refine (toOption_bind_ok (peek_blanks before (by decide) _)).trans ?_
    exact toOption_bind_ok (word_append nullWord rest)
  · have read := string_takes.map some .none value rest
    obtain ⟨first, more, spelled, solid, _, isNull⟩ := value.text_starts
    have content : value.optionalContent? = value.content?.map some := by
      cases value <;> first | rfl | contradiction
    rw [spelled, List.cons_append] at read ⊢
    rw [content]
    refine (toOption_bind_ok (peek_blanks before solid _)).trans ?_
    split
    · rename_i same
      exact absurd (isNull (Option.some_inj.mp same)) null
    · exact read

end SqliteBridge.Json
