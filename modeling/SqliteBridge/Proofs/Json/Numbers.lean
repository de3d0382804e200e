import SqliteBridge.Proofs.Json.Composites
import SqliteBridge.Proofs.Number.Bounds

/-! Numbers in JSON text. How a number is read does not depend on what follows it, and whatever
number is read is finite: one that would be infinite is refused. -/
namespace SqliteBridge.Json

namespace Number

variable {isNegative : Bool} {digits : Nat} {start : Int} {text : List Char}

/-- A number that comes from a text: its digits fit, and it is not infinite. -/
def Moderate : Number → Prop
  | natural n => n ≤ digitLimit
  | negative n => n.natAbs ≤ digitLimit
  | float x => x.isFinite = true

/-- What the reader takes from a text is a moderate number, and it takes the same from every
longer text. -/
def Delimited (read : Reader Number) (text : List Char) : Prop :=
  ∀ n rest, read.run text = .ok (n, rest) →
    n.Moderate ∧ ∀ more, Ends more → read.run (text ++ more) = .ok (n, rest ++ more)

/-- The reader does not look at the text. -/
def Fixed (read : Reader Number) : Prop :=
  (∃ fault, ∀ text, read.run text = .error fault) ∨
    ∃ n : Number, n.Moderate ∧ ∀ text, read.run text = .ok (n, text)

theorem Fixed.delimited {read : Reader Number} (fixed : Fixed read) (text : List Char) :
    Delimited read text := by
  intro n rest ran
  rcases fixed with ⟨fault, failed⟩ | ⟨n', moderate, gives⟩
  · rw [failed] at ran
    contradiction
  · rw [gives] at ran
    cases ran
    exact ⟨moderate, fun more _ => gives _⟩

/-! ### Parts of a number -/

theorem ofParts_fixed (isNegative : Bool) (fits : digits ≤ digitLimit) (exponent : Int) :
    Fixed (ofParts isNegative digits exponent) := by
  have bounded : Binary64.Bounded (.ofInt digits) :=
    Binary64.ofInt_bounded (Nat.lt_of_le_of_lt fits (by decide))
  have signed {x : Binary64} (finite : x.isFinite = true) :
      (if isNegative then x.negate else x).isFinite = true := by
    split
    · rwa [Binary64.isFinite_negate]
    · exact finite
  unfold ofParts
  dsimp only
  split
  · rename_i negative
    have places : 0 < exponent.natAbs := by omega
    exact .inr ⟨.float _, signed (divideDown_bounded bounded places).isFinite, fun _ => rfl⟩
  · split
    · split
      · exact .inr ⟨.float _, signed bounded.isFinite, fun _ => rfl⟩
      · exact .inl ⟨_, fun _ => rfl⟩
    · split
      · exact .inl ⟨_, fun _ => rfl⟩
      · rename_i finite
        have product := Binary64.isFinite_of_not_infinite (Binary64.ofFraction_le _ _ _)
          (eq_false_of_ne_true finite)
        exact .inr ⟨.float _, signed product, fun _ => rfl⟩

/-- The number of some digits, a sign and the digits of an exponent. -/
def withExponent (isNegative : Bool) (digits : Nat) (start : Int) (sign : Option Char)
    (text : List Char) : Reader Number :=
  let exponent := text.foldl (fun n c => n * 10 + digitValue c) 0
  if exponentLimit < exponent then
    if digits ≠ 0 ∧ sign ≠ some '-' then throw .malformed
    else pure (.float (.zero isNegative))
  else
    ofParts isNegative digits (if sign = some '-' then start - exponent else start + exponent)

/-- A text without the sign in front. -/
def unsign (text : List Char) : List Char :=
  if text.head? = some '+' ∨ text.head? = some '-' then text.tail else text

theorem exponentPart_run (isNegative : Bool) (digits : Nat) (start : Int) (c : Char)
    (text : List Char) : (exponentPart isNegative digits start).run (c :: text) =
      match (unsign text).head? with
      | none => .error .truncated
      | some c =>
        if !c.isDigit then .error .malformed
        else (withExponent isNegative digits start text.head?
          ((unsign text).takeWhile Char.isDigit)).run ((unsign text).dropWhile Char.isDigit) := by
  unfold exponentPart
  refine (run_bind_ok (rfl : advance.run _ = .ok ((), text))).trans ?_
  refine (run_bind_ok (rfl : (get : Reader (List Char)).run _ = .ok (_, _))).trans ?_
  dsimp only
  by_cases signed : text.head? = some '+' ∨ text.head? = some '-'
  · simp only [unsign, if_pos signed]
    refine (run_bind_ok (rfl : advance.run _ = .ok ((), _))).trans ?_
    refine (run_bind_ok (rfl : (get : Reader (List Char)).run _ = .ok (_, _))).trans ?_
    cases text.tail.head? with
    | none => rfl
    | some c => dsimp only; split <;> rfl
  · simp only [unsign, if_neg signed]
    refine (run_bind_ok (rfl : (get : Reader (List Char)).run _ = .ok (_, _))).trans ?_
    cases text.head? with
    | none => rfl
    | some c => dsimp only; split <;> rfl

theorem fractionPart_run (isNegative : Bool) (digits : Nat) (start : Int) (c : Char)
    (text : List Char) : (fractionPart isNegative digits start).run (c :: text) =
      let fraction := text.takeWhile Char.isDigit
      let rest := text.dropWhile Char.isDigit
      let gathered := fraction.foldl Gathered.add ⟨digits, 0⟩
      let exponent := start - ((fraction.length : Int) - gathered.dropped)
      if fraction.isEmpty then .error (if rest.isEmpty then .truncated else .malformed)
      else if rest.head? = some 'e' ∨ rest.head? = some 'E' then
        (exponentPart isNegative gathered.value exponent).run rest
      else (ofParts isNegative gathered.value exponent).run rest := by
  unfold fractionPart
  refine (run_bind_ok (rfl : advance.run _ = .ok ((), text))).trans ?_
  refine (run_bind_ok (rfl : takeDigits.run _ = .ok (_, _))).trans ?_
  refine (run_bind_ok (rfl : (get : Reader (List Char)).run _ = .ok (_, _))).trans ?_
  dsimp only
  by_cases empty : (text.takeWhile Char.isDigit).isEmpty = true
  · simp only [if_pos empty]
    rfl
  · simp only [if_neg empty]
    split <;> rfl

/-! ### What follows a number -/

theorem takeWhile_more {more : List Char} (ends : Ends more) (text : List Char) :
    (text ++ more).takeWhile Char.isDigit = text.takeWhile Char.isDigit ∧
      (text ++ more).dropWhile Char.isDigit = text.dropWhile Char.isDigit ++ more := by
  induction text with
  | nil =>
    cases more with
    | nil => exact ⟨rfl, rfl⟩
    | cons c more =>
      have stop := ends.notDigit c rfl
      simp [stop]
  | cons c text ih =>
    cases digit : c.isDigit with
    | true => simp [digit, ih.1, ih.2]
    | false => simp [digit]

theorem withExponent_fixed (isNegative : Bool) (fits : digits ≤ digitLimit) (start : Int)
    (sign : Option Char) (text : List Char) :
    Fixed (withExponent isNegative digits start sign text) := by
  unfold withExponent
  dsimp only
  split
  · split
    · exact .inl ⟨_, fun _ => rfl⟩
    · exact .inr ⟨.float _, Binary64.isFinite_zero isNegative, fun _ => rfl⟩
  · exact ofParts_fixed isNegative fits _

theorem unsign_append {c : Char} (head : (unsign text).head? = some c) (more : List Char) :
    (text ++ more).head? = text.head? ∧ unsign (text ++ more) = unsign text ++ more := by
  cases text with
  | nil => contradiction
  | cons first text =>
    refine ⟨rfl, ?_⟩
    rw [List.cons_append, unsign, unsign, List.head?_cons, List.head?_cons]
    split <;> rfl

theorem exponentPart_delimited (isNegative : Bool) (fits : digits ≤ digitLimit) (start : Int)
    (c : Char) (text : List Char) :
    Delimited (exponentPart isNegative digits start) (c :: text) := by
  intro n rest ran
  rw [exponentPart_run] at ran
  cases head : (unsign text).head? with
  | none =>
    rw [head] at ran
    contradiction
  | some digit =>
    rw [head] at ran
    dsimp only at ran
    split at ran
    · contradiction
    · rename_i isDigit
      have fixed := withExponent_fixed isNegative fits start text.head?
        ((unsign text).takeWhile Char.isDigit)
      obtain ⟨moderate, same⟩ := fixed.delimited _ n rest ran
      refine ⟨moderate, fun more ends => ?_⟩
      obtain ⟨sign, unsigned⟩ := unsign_append head more
      obtain ⟨front, back⟩ := takeWhile_more ends (unsign text)
      have head' : (unsign text ++ more).head? = some digit := by
        rw [List.head?_append, head]
        rfl
      rw [List.cons_append, exponentPart_run, sign, unsigned, head', front, back]
      dsimp only
      rw [if_neg isDigit]
      exact same more ends

theorem gathered_le (text : List Char) (gathered : Gathered) (fits : gathered.value ≤ digitLimit) :
    (text.foldl Gathered.add gathered).value ≤ digitLimit := by
  induction text generalizing gathered with
  | nil => exact fits
  | cons c text ih =>
    refine ih _ ?_
    unfold Gathered.add
    dsimp only
    split
    · rename_i added
      exact added.2
    · exact fits

/-- Whether a text goes on with an exponent. -/
theorem head_append {more : List Char} (ends : Ends more) (text : List Char) :
    ((text ++ more).head? = some 'e' ∨ (text ++ more).head? = some 'E') ↔
      (text.head? = some 'e' ∨ text.head? = some 'E') := by
  cases text with
  | nil =>
    obtain ⟨_, lower, upper⟩ := ends.head_ne
    constructor
    · rintro (first | first)
      · exact absurd first lower
      · exact absurd first upper
    · rintro (first | first) <;> contradiction
  | cons c text => exact Iff.rfl

theorem fractionPart_delimited (isNegative : Bool) (fits : digits ≤ digitLimit) (start : Int)
    (c : Char) (text : List Char) :
    Delimited (fractionPart isNegative digits start) (c :: text) := by
  intro n rest ran
  rw [fractionPart_run] at ran
  dsimp only at ran
  split at ran
  · contradiction
  · rename_i nonempty
    have gathered := gathered_le (text.takeWhile Char.isDigit) ⟨digits, 0⟩ fits
    have extended {more : List Char} (ends : Ends more) := takeWhile_more ends text
    split at ran
    · rename_i exponent
      obtain ⟨letter, after, spelled⟩ : ∃ letter after,
          text.dropWhile Char.isDigit = letter :: after := by
        rcases exponent with first | first <;>
          exact ⟨_, List.head?_eq_some_iff.mp first⟩
      rw [spelled] at ran
      obtain ⟨moderate, same⟩ := exponentPart_delimited isNegative gathered _ letter after n rest ran
      refine ⟨moderate, fun more ends => ?_⟩
      obtain ⟨front, back⟩ := extended ends
      rw [List.cons_append, fractionPart_run, front, back]
      dsimp only
      rw [if_neg nonempty, if_pos ((head_append ends _).mpr exponent), spelled]
      exact same more ends
    · rename_i whole
      obtain ⟨moderate, same⟩ := (ofParts_fixed isNegative gathered _).delimited _ n rest ran
      refine ⟨moderate, fun more ends => ?_⟩
      obtain ⟨front, back⟩ := extended ends
      rw [List.cons_append, fractionPart_run, front, back]
      dsimp only
      rw [if_neg nonempty, if_neg (mt (head_append ends _).mp whole)]
      exact same more ends

theorem whole_fixed (isNegative : Bool) {gathered : Gathered}
    (fits : gathered.value ≤ digitLimit) : Fixed (whole isNegative gathered) := by
  have bounded : Binary64.Bounded (.ofInt gathered.value) :=
    Binary64.ofInt_bounded (Nat.lt_of_le_of_lt fits (by decide))
  unfold whole
  split
  · exact ofParts_fixed isNegative fits _
  · split
    · exact .inr ⟨.natural _, fits, fun _ => rfl⟩
    · split
      · refine .inr ⟨.float _, ?_, fun _ => rfl⟩
        exact (Binary64.isFinite_negate _).trans bounded.isFinite
      · refine .inr ⟨.negative _, ?_, fun _ => rfl⟩
        rw [Moderate, Int.natAbs_neg]
        exact fits

theorem afterDigits_delimited (isNegative : Bool) {gathered : Gathered}
    (fits : gathered.value ≤ digitLimit) (text : List Char) :
    Delimited (afterDigits isNegative gathered) text := by
  have fixed := whole_fixed isNegative fits
  cases text with
  | nil =>
    intro n rest ran
    obtain ⟨moderate, same⟩ := fixed.delimited [] n rest ran
    refine ⟨moderate, fun more ends => ?_⟩
    refine (run_bind_ok (rfl : (get : Reader (List Char)).run _ = .ok (_, _))).trans ?_
    split
    · exact absurd ‹_› ends.head_ne.1
    · exact absurd ‹_› ends.head_ne.2.1
    · exact absurd ‹_› ends.head_ne.2.2
    · exact same more ends
  | cons c text =>
    by_cases point : c = '.'
    · subst point
      exact fractionPart_delimited isNegative fits _ '.' text
    · by_cases lower : c = 'e'
      · subst lower
        exact exponentPart_delimited isNegative fits _ 'e' text
      · by_cases upper : c = 'E'
        · subst upper
          exact exponentPart_delimited isNegative fits _ 'E' text
        · have ran (rest : List Char) : (afterDigits isNegative gathered).run (c :: rest) =
              (whole isNegative gathered).run (c :: rest) := by
            refine (run_bind_ok (rfl : (get : Reader (List Char)).run _ = .ok (_, _))).trans ?_
            split
            · exact absurd (Option.some_inj.mp ‹_›) point
            · exact absurd (Option.some_inj.mp ‹_›) lower
            · exact absurd (Option.some_inj.mp ‹_›) upper
            · rfl
          intro n rest read
          rw [ran] at read
          obtain ⟨moderate, same⟩ := fixed.delimited _ n rest read
          exact ⟨moderate, fun more ends => (ran _).trans (same more ends)⟩

theorem unsigned_delimited (isNegative : Bool) (text : List Char) :
    Delimited (unsigned isNegative) text := by
  intro n rest ran
  rw [unsigned_run] at ran
  cases head : text.head? with
  | none =>
    rw [head] at ran
    contradiction
  | some c =>
    rw [head] at ran
    dsimp only at ran
    split at ran
    · contradiction
    · rename_i digit
      split at ran
      · contradiction
      · rename_i unpadded
        have gathered := gathered_le (text.takeWhile Char.isDigit) ⟨0, 0⟩ (Nat.zero_le _)
        obtain ⟨moderate, same⟩ := afterDigits_delimited isNegative gathered _ n rest ran
        refine ⟨moderate, fun more ends => ?_⟩
        obtain ⟨front, back⟩ := takeWhile_more ends text
        have head' : (text ++ more).head? = some c := by
          rw [List.head?_append, head]
          rfl
        rw [unsigned_run, head', front, back]
        dsimp only
        rw [if_neg digit, if_neg unpadded]
        exact same more ends

theorem read_delimited (text : List Char) : Delimited read text := by
  by_cases sign : text.head? = some '-'
  · obtain ⟨rest, rfl⟩ := List.head?_eq_some_iff.mp sign
    exact unsigned_delimited true rest
  · intro n rest ran
    have plain (text : List Char) (sign : text.head? ≠ some '-') :
        read.run text = (unsigned false).run text := by
      refine (run_bind_ok (rfl : (get : Reader (List Char)).run _ = .ok (_, _))).trans ?_
      rw [if_neg sign]
    rw [plain text sign] at ran
    obtain ⟨moderate, same⟩ := unsigned_delimited false text n rest ran
    refine ⟨moderate, fun more ends => ?_⟩
    rw [plain _ ?_]
    · exact same more ends
    · cases text with
      | nil =>
        intro first
        rcases ends _ first with h | h | h <;> revert h <;> decide
      | cons c text => exact sign

end Number

/-- A value of the wrong kind is never accepted. -/
theorem mismatch_fails {α : Type} (expected : String) (text : List Char)
    (result : α × List Char) : (mismatch expected).run text ≠ .ok result := by
  intro ran
  obtain ⟨first, rest, _, ran⟩ := run_bind_eq_ok ran
  split at ran
  · obtain ⟨_, _, _, ran⟩ := run_bind_eq_ok ran
    contradiction
  · obtain ⟨_, _, _, ran⟩ := run_bind_eq_ok ran
    contradiction
  · obtain ⟨_, _, _, ran⟩ := run_bind_eq_ok ran
    contradiction
  · obtain ⟨_, _, _, ran⟩ := run_bind_eq_ok ran
    contradiction
  · contradiction
  · contradiction
  · split at ran
    · obtain ⟨_, _, _, ran⟩ := run_bind_eq_ok ran
      contradiction
    · contradiction
  · contradiction

theorem number_delimited (expected : String) (text : List Char) :
    Number.Delimited (number expected) text := by
  intro n rest ran
  obtain ⟨first?, after, peeked, ran⟩ := run_bind_eq_ok ran
  cases peeked
  cases spelled : text.dropWhile isBlank with
  | nil =>
    rw [spelled] at ran
    contradiction
  | cons c after =>
    rw [spelled, List.head?_cons] at ran
    dsimp only at ran
    split at ran
    · rename_i starts
      obtain ⟨moderate, same⟩ := Number.read_delimited (c :: after) n rest ran
      refine ⟨moderate, fun more ends => ?_⟩
      have extended : (text ++ more).dropWhile isBlank = c :: (after ++ more) := by
        rw [List.dropWhile_append, spelled]
        rfl
      refine (run_bind_ok (peek_run _)).trans ?_
      rw [extended, List.head?_cons]
      dsimp only
      rw [if_pos starts]
      exact same more ends
    · exact absurd ran (mismatch_fails _ _ _)

theorem binary64_delimited {text rest : List Char} {x : Binary64}
    (ran : binary64.run text = .ok (x, rest)) : x.isFinite = true ∧
      ∀ more, Ends more → binary64.run (text ++ more) = .ok (x, rest ++ more) := by
  obtain ⟨n, after, read, ran⟩ := run_bind_eq_ok ran
  obtain ⟨moderate, same⟩ := number_delimited "f64" text n after read
  have whole {n : Int} (fits : n.natAbs ≤ Number.digitLimit) : (Binary64.ofInt n).isFinite = true :=
    (Binary64.ofInt_bounded (Nat.lt_of_le_of_lt fits (by decide))).isFinite
  cases n with
  | float y =>
    cases ran
    exact ⟨moderate, fun more ends => run_bind_ok (same more ends)⟩
  | natural n =>
    cases ran
    exact ⟨whole moderate, fun more ends => run_bind_ok (same more ends)⟩
  | negative n =>
    cases ran
    exact ⟨whole moderate, fun more ends => run_bind_ok (same more ends)⟩

end SqliteBridge.Json
