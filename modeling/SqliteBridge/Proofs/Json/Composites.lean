import SqliteBridge.Proofs.Json.Scalars

/-! Sequences, records and variants in JSON text. A record reads back if each of its fields does
and the fields have names of their own; the fields before it are then filled already. -/
namespace SqliteBridge.Json

variable {α β : Type}

theorem commaSeparated_cons (item : List Char) (items : List (List Char)) :
    commaSeparated (item :: items) = item ++ items.flatMap (',' :: ·) := by
  induction items generalizing item with
  | nil => rw [commaSeparated, List.flatMap_nil, List.append_nil]
  | cons next items ih =>
    rw [commaSeparated, ih, List.flatMap_cons, List.cons_append]
    nofun

/-! ### Sequences -/

theorem hasElement_first {text : List Char} (starts : Starts ']' text) (rest : List Char) :
    (hasElement true).run (text ++ rest) = .ok (true, text ++ rest) := by
  obtain ⟨first, more, rfl, solid, different⟩ := starts
  refine (run_bind_ok (peek_cons solid _)).trans ?_
  split
  · contradiction
  · rename_i same
    exact absurd (Option.some_inj.mp same) different
  · rfl

theorem hasElement_next {text : List Char} (starts : Starts ']' text) (rest : List Char) :
    (hasElement false).run (',' :: (text ++ rest)) = .ok (true, text ++ rest) := by
  obtain ⟨first, more, rfl, solid, different⟩ := starts
  refine (run_bind_ok (peek_cons (by decide) _)).trans ?_
  refine (run_bind_ok (rfl : advance.run _ = .ok ((), _))).trans ?_
  refine (run_bind_ok (peek_cons solid _)).trans ?_
  split
  · contradiction
  · rename_i same
    exact absurd (Option.some_inj.mp same) different
  · rfl

theorem hasElement_end (first : Bool) (rest : List Char) :
    (hasElement first).run (']' :: rest) = .ok (false, ']' :: rest) :=
  run_bind_ok (peek_cons (by decide) _)

section Sequences

variable {read : Reader α} {write : α → List Char} {items : List α} {item : α}

theorem ends_elements (items : List α) (rest : List Char) :
    Ends (items.flatMap (fun item => ',' :: write item) ++ ']' :: rest) := by
  cases items with
  | nil => exact ends_bracket rest
  | cons item items => exact ends_comma _

theorem elements_step {first : Bool} {fuel : Nat} {before text rest : List Char}
    (element : (hasElement first).run before = .ok (true, text ++ rest))
    (reads : Reads read text item) (ends : Ends rest) {items : List α} {after : List Char}
    (next : (elements read fuel false).run rest = .ok (items, after)) :
    (elements read (fuel + 1) first).run before = .ok (item :: items, after) := by
  unfold elements
  refine (run_bind_ok element).trans ?_
  refine (run_bind_ok (reads rest ends)).trans ?_
  exact run_bind_ok next

theorem elements_end {first : Bool} (fuel : Nat) (rest : List Char) :
    (elements read (fuel + 1) first).run (']' :: rest) = .ok ([], ']' :: rest) :=
  run_bind_ok (hasElement_end first rest)

theorem elements_reads (each : ∀ item ∈ items, Reads read (write item) item ∧ Starts ']' (write item))
    {fuel : Nat} (enough : items.length < fuel) (rest : List Char) :
    (elements read fuel false).run (items.flatMap (fun item => ',' :: write item) ++ ']' :: rest) =
      .ok (items, ']' :: rest) := by
  induction items generalizing fuel with
  | nil =>
    obtain ⟨fuel, rfl⟩ := Nat.exists_eq_succ_of_ne_zero (Nat.ne_of_gt enough)
    exact elements_end fuel rest
  | cons item items ih =>
    obtain ⟨fuel, rfl⟩ := Nat.exists_eq_succ_of_ne_zero (Nat.ne_of_gt (Nat.zero_lt_of_lt enough))
    obtain ⟨⟨reads, starts⟩, each⟩ := List.forall_mem_cons.mp each
    rw [List.flatMap_cons, List.cons_append, List.cons_append, List.append_assoc]
    exact elements_step (hasElement_next starts _) reads (ends_elements items rest)
      (ih each (Nat.lt_of_succ_lt_succ enough))

theorem length_le_flatMap (items : List α) (text : α → List Char) :
    items.length ≤ (items.flatMap fun item => ',' :: text item).length := by
  induction items with
  | nil => exact Nat.le_refl _
  | cons item items ih =>
    rw [List.flatMap_cons, List.length_append, List.length_cons, List.length_cons]
    omega

theorem sequence_reads (each : ∀ item ∈ items, Reads read (write item) item ∧ Starts ']' (write item)) :
    Reads (sequence read) (writeArray write items) items := by
  intro rest ends
  have closed (rest : List Char) : closeArray.run (']' :: rest) = .ok ((), rest) :=
    run_bind_ok (peek_cons (by decide) _)
  have body : (elements read ((commaSeparated (items.map write) ++ ']' :: rest).length + 1) true).run
      (commaSeparated (items.map write) ++ ']' :: rest) = .ok (items, ']' :: rest) := by
    cases items with
    | nil => exact elements_end _ rest
    | cons item items =>
      obtain ⟨⟨reads, starts⟩, each⟩ := List.forall_mem_cons.mp each
      rw [List.map_cons, commaSeparated_cons, List.flatMap_map, List.append_assoc]
      refine elements_step (hasElement_first starts _) reads (ends_elements items rest)
        (elements_reads each ?_ rest)
      have counted := length_le_flatMap items write
      simp only [List.length_append, List.length_cons]
      omega
  have text : writeArray write items ++ rest =
      '[' :: (commaSeparated (items.map write) ++ ']' :: rest) := by
    rw [writeArray, List.cons_append, List.cons_append, List.append_assoc]
    rfl
  rw [text]
  refine (run_bind_ok (peek_cons (by decide) _)).trans ?_
  refine (run_bind_ok (rfl : advance.run _ = .ok ((), _))).trans ?_
  refine (run_bind_ok (rfl : (get : Reader (List Char)).run _ = .ok (_, _))).trans ?_
  refine (run_bind_ok body).trans ?_
  exact run_bind_ok (closed rest)

end Sequences

/-! ### Records -/

namespace Record

variable {record : Record β} {value before after : β}

/-- The fields read back in turn, from one state of the record to another. -/
inductive Fills (value : β) : List (Field β) → β → β → Prop
  | nil (state : β) : Fills value [] state state
  | cons {field : Field β} {fields : List (Field β)} {before middle after : β}
      (reads : Reads (field.store before) (field.write value) middle)
      (fills : Fills value fields middle after) : Fills value (field :: fields) before after

/-- A field by its name, as it is written. -/
def member (value : β) (field : Field β) : List Char :=
  writeString field.name ++ ':' :: field.write value

theorem hasMember_first (value : β) (field : Field β) (rest : List Char) :
    (hasMember true).run (member value field ++ rest) = .ok (true, member value field ++ rest) :=
  run_bind_ok (peek_cons (by decide) _)

theorem hasMember_next (value : β) (field : Field β) (rest : List Char) :
    (hasMember false).run (',' :: (member value field ++ rest)) =
      .ok (true, member value field ++ rest) := by
  refine (run_bind_ok (peek_cons (by decide) _)).trans ?_
  refine (run_bind_ok (rfl : advance.run _ = .ok ((), _))).trans ?_
  exact run_bind_ok (peek_cons (by decide) _)

theorem hasMember_end (first : Bool) (rest : List Char) :
    (hasMember first).run ('}' :: rest) = .ok (false, '}' :: rest) :=
  run_bind_ok (peek_cons (by decide) _)

theorem find?_of_mem {fields : List (Field β)} (distinct : (fields.map Field.name).Nodup)
    {field : Field β} (listed : field ∈ fields) :
    fields.find? (fun other => other.name == field.name) = some field := by
  induction fields with
  | nil => contradiction
  | cons other fields ih =>
    rw [List.map_cons, List.nodup_cons] at distinct
    rcases List.mem_cons.mp listed with rfl | listed
    · rw [List.find?_cons, beq_self_eq_true]
    · have different : other.name ≠ field.name := by
        intro same
        exact distinct.1 (same ▸ List.mem_map_of_mem listed)
      rw [List.find?_cons_of_neg (by rwa [beq_iff_eq])]
      exact ih distinct.2 listed

theorem ends_members (fields : List (Field β)) (rest : List Char) :
    Ends (fields.flatMap (fun field => ',' :: member value field) ++ '}' :: rest) := by
  cases fields with
  | nil => exact ends_brace rest
  | cons field fields => exact ends_comma _

theorem colon_run (rest : List Char) : colon.run (':' :: rest) = .ok ((), rest) :=
  run_bind_ok (peek_cons (by decide) _)

theorem members_step {first : Bool} {fuel : Nat} {field : Field β} {seen : List String}
    {text rest : List Char} {middle : β} (distinct : (record.fields.map Field.name).Nodup)
    (listed : field ∈ record.fields) (unseen : field.name ∉ seen)
    (begins : (hasMember first).run text = .ok (true, member value field ++ rest))
    (reads : Reads (field.store before) (field.write value) middle) (ends : Ends rest) :
    (record.members (fuel + 1) first seen before).run text =
      (record.members fuel false (field.name :: seen) middle).run rest := by
  rw [members]
  have key : quotedString.run (member value field ++ rest) =
      .ok (field.name, ':' :: (field.write value ++ rest)) := by
    rw [member, List.append_assoc]
    exact quotedString_reads field.name _
  refine (run_bind_ok begins).trans ?_
  refine (run_bind_ok key).trans ?_
  rw [find?_of_mem distinct listed]
  dsimp only
  rw [if_neg (by rwa [List.contains_iff_mem])]
  refine (run_bind_ok (colon_run _)).trans ?_
  exact run_bind_ok (reads rest ends)

theorem members_end {first : Bool} (fuel : Nat) (seen : List String) (state : β) (rest : List Char) :
    (record.members (fuel + 1) first seen state).run ('}' :: rest) =
      .ok ((seen, state), '}' :: rest) := by
  rw [members]
  exact run_bind_ok (hasMember_end first rest)

theorem members_reads (distinct : (record.fields.map Field.name).Nodup) {fields : List (Field β)}
    (listed : ∀ field ∈ fields, field ∈ record.fields) (fills : Fills value fields before after)
    {seen : List String} (apart : (fields.map Field.name ++ seen).Nodup) {fuel : Nat}
    (enough : fields.length < fuel) (rest : List Char) :
    (record.members fuel false seen before).run
        (fields.flatMap (fun field => ',' :: member value field) ++ '}' :: rest) =
      .ok (((fields.map Field.name).reverse ++ seen, after), '}' :: rest) := by
  induction fills generalizing seen fuel with
  | nil state =>
    obtain ⟨fuel, rfl⟩ := Nat.exists_eq_succ_of_ne_zero (Nat.ne_of_gt enough)
    exact members_end fuel seen state rest
  | @cons field fields before middle after reads fills ih =>
    obtain ⟨fuel, rfl⟩ := Nat.exists_eq_succ_of_ne_zero (Nat.ne_of_gt (Nat.zero_lt_of_lt enough))
    obtain ⟨own, listed⟩ := List.forall_mem_cons.mp listed
    rw [List.map_cons, List.cons_append, List.nodup_cons, List.mem_append, not_or] at apart
    obtain ⟨⟨other, unseen⟩, apart⟩ := apart
    have apart' : (fields.map Field.name ++ field.name :: seen).Nodup := by
      rw [List.perm_middle.nodup_iff, List.nodup_cons, List.mem_append, not_or]
      exact ⟨⟨other, unseen⟩, apart⟩
    rw [List.flatMap_cons, List.cons_append, List.cons_append, List.append_assoc]
    rw [members_step distinct own unseen (hasMember_next value field _) reads
        (ends_members fields rest),
      ih listed apart' (Nat.lt_of_succ_lt_succ enough), List.map_cons, List.reverse_cons,
      List.append_assoc]
    rfl

theorem members_whole (distinct : (record.fields.map Field.name).Nodup) {fields : List (Field β)}
    (same : record.fields = fields) (fills : Fills value fields before after) (rest : List Char) :
    (record.members ((commaSeparated (fields.map (member value)) ++ '}' :: rest).length + 1) true []
        before).run (commaSeparated (fields.map (member value)) ++ '}' :: rest) =
      .ok (((fields.map Field.name).reverse, after), '}' :: rest) := by
  cases fills with
  | nil => exact members_end _ [] before rest
  | @cons field fields _ _ _ reads fills =>
    have listed : ∀ field' ∈ field :: fields, field' ∈ record.fields := by
      rw [same]
      exact fun _ listed => listed
    rw [same, List.map_cons] at distinct
    have apart : (fields.map Field.name ++ [field.name]).Nodup :=
      (List.perm_append_singleton _ _).nodup_iff.mpr distinct
    rw [List.map_cons, commaSeparated_cons, List.flatMap_map, List.append_assoc]
    rw [members_step (same ▸ distinct) (listed field List.mem_cons_self) List.not_mem_nil
        (hasMember_first value field _) reads (ends_members fields rest),
      members_reads (same ▸ distinct) (fun field' within => listed field' (.tail _ within)) fills apart]
    · rw [List.map_cons, List.reverse_cons]
    · have counted := length_le_flatMap fields (member value)
      simp only [List.length_append, List.length_cons]
      omega

/-- A record whose fields read back does so as a whole. -/
theorem reads_of_fills (distinct : (record.fields.map Field.name).Nodup)
    (fills : Fills value record.fields record.initial value) :
    Reads record.read (record.write value) value := by
  intro rest _
  have closed (rest : List Char) : closeObject.run ('}' :: rest) = .ok ((), rest) :=
    run_bind_ok (peek_cons (by decide) _)
  have filled : (record.fields.find? fun field =>
      field.required && !(record.fields.map Field.name).reverse.contains field.name) = none := by
    rw [List.find?_eq_none]
    intro field listed
    have named : field.name ∈ (record.fields.map Field.name).reverse :=
      List.mem_reverse.mpr (List.mem_map_of_mem listed)
    rw [List.contains_iff_mem.mpr named]
    simp
  have body : (record.members
        ((commaSeparated (record.fields.map (member value)) ++ '}' :: rest).length + 1) true []
        record.initial).run (commaSeparated (record.fields.map (member value)) ++ '}' :: rest) =
      .ok (((record.fields.map Field.name).reverse, value), '}' :: rest) :=
    members_whole distinct rfl fills rest
  have text : record.write value ++ rest =
      '{' :: (commaSeparated (record.fields.map (member value)) ++ '}' :: rest) := by
    rw [write, List.cons_append, List.cons_append, List.append_assoc]
    rfl
  rw [text]
  refine (run_bind_ok (peek_cons (by decide) _)).trans ?_
  refine (run_bind_ok (rfl : advance.run _ = .ok ((), _))).trans ?_
  refine (run_bind_ok (rfl : (get : Reader (List Char)).run _ = .ok (_, _))).trans ?_
  refine (run_bind_ok body).trans ?_
  dsimp only
  rw [filled]
  exact run_bind_ok (closed rest)

end Record

/-! ### Variants -/

namespace Variant

variable {variants : List (Variant α)} {variant : Variant α}

theorem choose_found {name : String}
    (found : variants.find? (fun variant => variant.name == name) = some variant)
    (rest : List Char) : (choose variants name).run rest = .ok (variant, rest) := by
  rw [choose, found]
  rfl

/-- An alternative without content, written as its name. -/
theorem reads_bare {name : String} {value : α}
    (found : variants.find? (fun variant => variant.name == name) = some (.bare name value)) :
    Reads (read variants) (writeString name) value := by
  intro rest _
  refine (run_bind_ok (peek_cons (by decide) _)).trans ?_
  refine (run_bind_ok (quotedString_reads name rest)).trans ?_
  exact run_bind_ok (choose_found found rest)

/-- An alternative with content, written as an object with one member. The content may leave
blanks at the end of its text. -/
theorem reads_holding {name : String} {content : Reader α} {text blanks : List Char} {value : α}
    (found : variants.find? (fun variant => variant.name == name) = some (.holding name content))
    (blank : ∀ c ∈ blanks, isBlank c = true)
    (reads : ∀ rest, content.run (text ++ '}' :: rest) = .ok (value, blanks ++ '}' :: rest)) :
    Reads (read variants) (writeHolding name text) value := by
  intro rest _
  have spelled : writeHolding name text ++ rest =
      '{' :: (writeString name ++ ':' :: (text ++ '}' :: rest)) := by
    simp [writeHolding]
  have key : key.run (writeString name ++ ':' :: (text ++ '}' :: rest)) =
      .ok (name, ':' :: (text ++ '}' :: rest)) :=
    (run_bind_ok (peek_cons (by decide) _)).trans (quotedString_reads name _)
  have last : peek.run (blanks ++ '}' :: rest) = .ok (some '}', '}' :: rest) := by
    have dropped : (blanks ++ '}' :: rest).dropWhile isBlank = '}' :: rest := by
      rw [List.dropWhile_append_of_pos blank]
      rfl
    rw [peek_run, dropped]
    rfl
  rw [spelled]
  refine (run_bind_ok (peek_cons (by decide) _)).trans ?_
  refine (run_bind_ok (rfl : advance.run _ = .ok ((), _))).trans ?_
  refine (run_bind_ok key).trans ?_
  refine (run_bind_ok (choose_found found _)).trans ?_
  refine (run_bind_ok (Record.colon_run _)).trans ?_
  refine (run_bind_ok (reads rest)).trans ?_
  exact run_bind_ok last

theorem reads_holding_exactly {name : String} {content : Reader α} {text : List Char} {value : α}
    (found : variants.find? (fun variant => variant.name == name) = some (.holding name content))
    (reads : Reads content text value) : Reads (read variants) (writeHolding name text) value :=
  reads_holding found (fun _ listed => absurd listed List.not_mem_nil)
    fun rest => reads _ (ends_brace rest)

/-! What is read is the value of an alternative, or comes from the content of one. -/

theorem choose_eq_ok {name : String} {text rest : List Char}
    (ran : (choose variants name).run text = .ok (variant, rest)) : variant ∈ variants := by
  unfold choose at ran
  split at ran
  · rename_i found
    cases ran
    exact List.mem_of_find?_eq_some found
  · contradiction

theorem read_eq_ok {text rest : List Char} {value : α}
    (ran : (read variants).run text = .ok (value, rest)) :
    (∃ name, .bare name value ∈ variants) ∨ ∃ name content before after,
      .holding name content ∈ variants ∧ content.run before = .ok (value, after) := by
  obtain ⟨first?, start, _, ran⟩ := run_bind_eq_ok ran
  split at ran
  · contradiction
  · obtain ⟨_, _, _, ran⟩ := run_bind_eq_ok ran
    obtain ⟨name, _, _, ran⟩ := run_bind_eq_ok ran
    obtain ⟨variant, _, chosen, ran⟩ := run_bind_eq_ok ran
    obtain ⟨_, before, _, ran⟩ := run_bind_eq_ok ran
    obtain ⟨content, after, took, ran⟩ := run_bind_eq_ok ran
    obtain ⟨last?, _, _, ran⟩ := run_bind_eq_ok ran
    have same : content = value := by
      split at ran
      · cases ran
        rfl
      · contradiction
      · contradiction
    subst same
    have listed := choose_eq_ok chosen
    cases variant with
    | bare name alone =>
      obtain ⟨_, _, _, gave⟩ := run_bind_eq_ok took
      cases gave
      exact .inl ⟨name, listed⟩
    | holding name content => exact .inr ⟨name, content, before, after, listed, took⟩
  · obtain ⟨name, _, _, ran⟩ := run_bind_eq_ok ran
    obtain ⟨variant, _, chosen, ran⟩ := run_bind_eq_ok ran
    have listed := choose_eq_ok chosen
    cases variant with
    | bare name alone =>
      cases ran
      exact .inl ⟨name, listed⟩
    | holding _ _ => contradiction
  · contradiction

end Variant

end SqliteBridge.Json
