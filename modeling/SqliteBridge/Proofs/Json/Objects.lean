import SqliteBridge.Proofs.Json.Grammar

/-! Objects as anybody may write them, read into a record of which every field may be missing and
no other may be there. Each member acts on the record. The text is refused if one has no effect, or
the name of a member before it, and is the record with all effects otherwise. -/
namespace SqliteBridge.Json.Record

variable {β : Type} {record : Record β} {effect? : String → Spelling → Option (β → β)}

/-- The effect on a record that a value has under a name: the reader of the field with that name
does the same, and a name without a field has none. -/
structure Acts (record : Record β) (effect? : String → Spelling → Option (β → β)) : Prop where
  strict : record.strict = true
  optional : ∀ field ∈ record.fields, field.required = false
  known : ∀ field ∈ record.fields, ∀ state,
    Takes (field.store state) fun value => (effect? field.name value).map fun act => act state
  unknown : ∀ name, (∀ field ∈ record.fields, field.name ≠ name) →
    ∀ value, effect? name value = none

/-- The record after the members, with the names that were seen. -/
def follow? (effect? : String → Spelling → Option (β → β)) :
    List (Member Spelling) → (seen : List String) → β → Option (List String × β)
  | [], seen, state => some (seen, state)
  | member :: members, seen, state =>
    member.name?.bind fun name =>
      (effect? name member.value.value).bind fun act =>
        if name ∈ seen then none else follow? effect? members (name :: seen) (act state)

theorem follow?_cons_map {γ : Type} (f : List String × β → γ) (member : Member Spelling)
    (members : List (Member Spelling)) (seen : List String) (state : β) :
    (follow? effect? (member :: members) seen state).map f =
      member.name?.bind fun name =>
        (effect? name member.value.value).bind fun act =>
          if name ∈ seen then none
          else (follow? effect? members (name :: seen) (act state)).map f := by
  rw [follow?, Option.map_bind]
  refine Option.bind_congr fun name _ => ?_
  rw [Function.comp, Option.map_bind]
  exact Option.bind_congr fun act _ => apply_ite (Option.map f) ..

/-- The effect of a member by its key and its value. -/
def effectOf? (effect? : String → Spelling → Option (β → β)) (member : Member Spelling) :
    Option (β → β) :=
  member.name?.bind fun name => effect? name member.value.value

/-- Members of different names that all have an effect are followed to the end. -/
theorem follow?_of_effects {members : List (Member Spelling)} {effects : List (β → β)}
    (given : members.map (effectOf? effect?) = effects.map some) {seen : List String}
    (distinct : (members.map Member.name? ++ seen.map some).Nodup) (state : β) :
    (follow? effect? members seen state).map Prod.snd =
      some (effects.foldl (fun state act => act state) state) := by
  induction members generalizing effects seen state with
  | nil =>
    obtain rfl := List.map_eq_nil_iff.mp given.symm
    rfl
  | cons member members ih =>
    obtain ⟨act, effects, rfl, own, given⟩ := List.map_eq_cons_iff.mp given.symm
    obtain ⟨name, named, acts⟩ := Option.bind_eq_some_iff.mp own.symm
    rw [List.map_cons, List.cons_append, List.nodup_cons, named, List.mem_append,
      not_or] at distinct
    obtain ⟨⟨other, unseen⟩, distinct⟩ := distinct
    have distinct' : (members.map Member.name? ++ (name :: seen).map some).Nodup := by
      rw [List.map_cons, List.perm_middle.nodup_iff, List.nodup_cons, List.mem_append, not_or]
      exact ⟨⟨other, unseen⟩, distinct⟩
    rw [follow?, named, Option.bind_some, acts, Option.bind_some,
      if_neg fun listed => unseen (List.mem_map_of_mem listed)]
    exact ih given.symm distinct' (act state)

/-- Only such members are. -/
theorem effects_of_follow? {members : List (Member Spelling)} {seen : List String} {state : β}
    {reached : List String × β} (followed : follow? effect? members seen state = some reached) :
    (∀ member ∈ members, effectOf? effect? member ≠ none) ∧ (members.map Member.name?).Nodup ∧
      ∀ member ∈ members, ∀ name ∈ seen, member.name? ≠ some name := by
  induction members generalizing seen state with
  | nil => exact ⟨nofun, .nil, nofun⟩
  | cons member members ih =>
    obtain ⟨name, named, followed⟩ := Option.bind_eq_some_iff.mp followed
    obtain ⟨act, acts, followed⟩ := Option.bind_eq_some_iff.mp followed
    split at followed
    · contradiction
    · rename_i unseen
      obtain ⟨effects, distinct, fresh⟩ := ih followed
      have own : effectOf? effect? member ≠ none := by
        rw [effectOf?, named, Option.bind_some, acts]
        nofun
      refine ⟨List.forall_mem_cons.mpr ⟨own, effects⟩, ?_, List.forall_mem_cons.mpr ⟨?_, ?_⟩⟩
      · rw [List.map_cons, List.nodup_cons, named]
        refine ⟨fun repeated => ?_, distinct⟩
        obtain ⟨other, listed, same⟩ := List.mem_map.mp repeated
        exact fresh other listed name List.mem_cons_self same
      · rintro other listed same
        cases Option.some_inj.mp (named.symm.trans same)
        exact unseen listed
      · exact fun other listed name earlier => fresh other listed name (.tail _ earlier)

theorem hasMember_spelled_first (before : Blanks) (key : List Piece) (rest : List Char) :
    (hasMember true).run (before.chars ++ (quotedText key ++ rest)) =
      .ok (true, quotedText key ++ rest) :=
  run_bind_ok (peek_blanks before (by decide) _)

theorem hasMember_spelled_next (after before : Blanks) (key : List Piece) (rest : List Char) :
    (hasMember false).run (after.chars ++ ',' :: (before.chars ++ (quotedText key ++ rest))) =
      .ok (true, quotedText key ++ rest) := by
  refine (run_bind_ok (peek_blanks after (by decide) _)).trans ?_
  refine (run_bind_ok (rfl : advance.run _ = .ok ((), _))).trans ?_
  exact run_bind_ok (peek_blanks before (by decide) _)

theorem hasMember_spelled_end (first : Bool) (after : Blanks) (rest : List Char) :
    (hasMember first).run (after.chars ++ '}' :: rest) = .ok (false, '}' :: rest) :=
  run_bind_ok (peek_blanks after (by decide) _)

theorem colon_spelled (before : Blanks) (rest : List Char) :
    colon.run (before.chars ++ ':' :: rest) = .ok ((), rest) :=
  run_bind_ok (peek_blanks before (by decide) _)

/-- A member after its key, and what follows it. -/
def afterKey (member : Member Spelling) (rest : List Char) : List Char :=
  member.key.after.chars ++ ':' :: (member.value.before.chars ++ (member.value.value.text ++
    (member.value.after.chars ++ rest)))

theorem text_append (member : Member Spelling) (rest : List Char) :
    member.text Spelling.text ++ rest =
      member.key.before.chars ++ (quotedText member.key.value ++ afterKey member rest) := by
  simp [Member.text, Spaced.text, afterKey]

/-- One member: it acts, or ends the reading. -/
theorem members_member (acts : record.Acts effect?) {first : Bool} {fuel : Nat} {seen : List String}
    {state : β} {text rest : List Char} {member : Member Spelling}
    (begins : (hasMember first).run text =
      .ok (true, quotedText member.key.value ++ afterKey member rest)) :
    ((record.members (fuel + 1) first seen state).run text).toOption =
      member.name?.bind fun name =>
        (effect? name member.value.value).bind fun act =>
          if name ∈ seen then none
          else ((record.members fuel false (name :: seen) (act state)).run
            (member.value.after.chars ++ rest)).toOption := by
  rw [members]
  refine (toOption_bind_ok begins).trans ?_
  rw [if_pos rfl, toOption_bind, quotedString_pieces, Option.bind_map, Member.name?]
  refine Option.bind_congr fun name _ => ?_
  dsimp only [Function.comp]
  cases found : record.fields.find? (fun field => field.name == name) with
  | none =>
    have unknown := acts.unknown name (fun field listed => by
      have differs := List.find?_eq_none.mp found field listed
      rwa [beq_iff_eq] at differs) member.value.value
    rw [unknown, acts.strict]
    rfl
  | some field =>
    have listed := List.mem_of_find?_eq_some found
    have named := List.find?_some found
    obtain rfl : field.name = name := beq_iff_eq.mp named
    dsimp only
    split
    · rename_i repeated
      rw [List.contains_iff_mem] at repeated
      simp only [if_pos repeated]
      cases effect? field.name member.value.value <;> rfl
    · rename_i fresh
      rw [List.contains_iff_mem] at fresh
      simp only [if_neg fresh]
      refine (toOption_bind_ok (colon_spelled ..)).trans ?_
      rw [toOption_bind, acts.known field listed state, Option.bind_map, Option.bind_map]
      rfl

def memberTexts (members : List (Member Spelling)) : List Char :=
  commaSeparated (members.map (Member.text Spelling.text))

/-- Members behind a comma. -/
def moreText (members : List (Member Spelling)) : List Char :=
  members.flatMap fun member => ',' :: member.text Spelling.text

theorem moreText_cons (member : Member Spelling) (members : List (Member Spelling))
    (rest : List Char) : moreText (member :: members) ++ rest =
      ',' :: (member.key.before.chars ++
        (quotedText member.key.value ++ afterKey member (moreText members ++ rest))) := by
  rw [moreText, List.flatMap_cons, List.cons_append, List.cons_append, List.append_assoc,
    text_append]
  rfl

theorem members_more (acts : record.Acts effect?) {members : List (Member Spelling)} {fuel : Nat}
    (enough : members.length < fuel) (seen : List String) (state : β) (after : Blanks)
    (rest : List Char) :
    ((record.members fuel false seen state).run
        (after.chars ++ (moreText members ++ '}' :: rest))).toOption =
      (follow? effect? members seen state).map fun reached => (reached, '}' :: rest) := by
  obtain ⟨fuel, rfl⟩ := Nat.exists_eq_succ_of_ne_zero (Nat.ne_of_gt (Nat.zero_lt_of_lt enough))
  induction members generalizing seen state after fuel with
  | nil =>
    rw [Record.members]
    exact toOption_bind_ok (hasMember_spelled_end false after rest)
  | cons member members ih =>
    have enough := Nat.lt_of_succ_lt_succ enough
    obtain ⟨fuel, rfl⟩ := Nat.exists_eq_succ_of_ne_zero (Nat.ne_of_gt (Nat.zero_lt_of_lt enough))
    rw [moreText_cons, members_member acts (hasMember_spelled_next ..), follow?_cons_map]
    simp only [fun seen state after => ih seen state after fuel enough]

theorem members_spelled (acts : record.Acts effect?) {members : List (Member Spelling)} {fuel : Nat}
    (enough : members.length < fuel) (state : β) (inner : Blanks) (rest : List Char) :
    ((record.members fuel true [] state).run
        (inner.chars ++ (memberTexts members ++ '}' :: rest))).toOption =
      (follow? effect? members [] state).map fun reached => (reached, '}' :: rest) := by
  obtain ⟨fuel, rfl⟩ := Nat.exists_eq_succ_of_ne_zero (Nat.ne_of_gt (Nat.zero_lt_of_lt enough))
  cases members with
  | nil =>
    rw [Record.members]
    exact toOption_bind_ok (hasMember_spelled_end true inner rest)
  | cons member members =>
    have enough := Nat.lt_of_succ_lt_succ enough
    obtain ⟨fuel, rfl⟩ := Nat.exists_eq_succ_of_ne_zero (Nat.ne_of_gt (Nat.zero_lt_of_lt enough))
    have text : inner.chars ++ (memberTexts (member :: members) ++ '}' :: rest) =
        (inner.append member.key.before).chars ++ (quotedText member.key.value ++
          afterKey member (moreText members ++ '}' :: rest)) := by
      rw [memberTexts, List.map_cons, commaSeparated_cons, List.flatMap_map, List.append_assoc, text_append,
        Blanks.append, List.append_assoc]
      rfl
    rw [text, members_member acts (hasMember_spelled_first ..), follow?_cons_map]
    simp only [members_more acts enough, List.not_mem_nil, if_false]

theorem length_le_memberTexts (members : List (Member Spelling)) :
    members.length ≤ (memberTexts members).length + 1 := by
  cases members with
  | nil => exact Nat.zero_le _
  | cons member members =>
    have counted := length_le_flatMap members (Member.text Spelling.text)
    rw [memberTexts, List.map_cons, commaSeparated_cons, List.flatMap_map, List.length_append, List.length_cons]
    omega

/-- An object is read as the record with the effects of its members, or not at all. -/
theorem read_object (acts : record.Acts effect?) (before inner : Blanks)
    (members : List (Member Spelling)) (rest : List Char) :
    (record.read.run (before.chars ++ ((Spelling.object inner members).text ++ rest))).toOption =
      (follow? effect? members [] record.initial).map fun reached => (reached.2, rest) := by
  have text : (Spelling.object inner members).text ++ rest =
      '{' :: (inner.chars ++ (memberTexts members ++ '}' :: rest)) := by
    rw [Spelling.text, Spelling.memberTexts_eq, memberTexts]
    simp
  have complete (seen : List String) : record.fields.find? (fun field =>
      field.required && !seen.contains field.name) = none := by
    rw [List.find?_eq_none]
    intro field listed
    rw [acts.optional field listed]
    exact Bool.false_ne_true
  unfold read
  rw [text]
  refine (toOption_bind_ok (peek_blanks before (by decide) _)).trans ?_
  refine (toOption_bind_ok (rfl : advance.run _ = .ok ((), _))).trans ?_
  refine (toOption_bind_ok (rfl : (get : Reader (List Char)).run _ = .ok (_, _))).trans ?_
  have enough : members.length <
      (inner.chars ++ (memberTexts members ++ '}' :: rest)).length + 1 := by
    have counted := length_le_memberTexts members
    simp only [List.length_append, List.length_cons]
    omega
  rw [List.tail_cons, toOption_bind, members_spelled acts enough, Option.bind_map,
    Option.map_eq_bind]
  refine Option.bind_congr fun reached _ => ?_
  dsimp only [Function.comp]
  rw [complete]
  rfl

theorem parse_document (acts : record.Acts effect?) (document : Document) :
    (parse record.read document.text).toOption =
      (follow? effect? document.members [] record.initial).map Prod.snd := by
  obtain ⟨before, inner, members, after⟩ := document
  have ran := read_object acts before inner members after.chars
  have blank : (after.chars.dropWhile isBlank).isEmpty = true := by
    rw [List.isEmpty_iff, List.dropWhile_eq_nil_iff]
    exact after.blank
  rw [parse, Document.text, Spaced.text, String.toList_ofList, List.append_assoc]
  dsimp only
  cases gave : record.read.run
      (before.chars ++ ((Spelling.object inner members).text ++ after.chars)) with
  | error fault =>
    rw [gave] at ran
    rw [Option.map_eq_none_iff.mp ran.symm]
    rfl
  | ok outcome =>
    rw [gave] at ran
    obtain ⟨reached, followed, same⟩ := Option.map_eq_some_iff.mp ran.symm
    subst same
    rw [followed]
    exact congrArg Except.toOption (if_pos blank)

/-- An object of which every member acts, each under a name of its own, is read as the record with
all the effects. -/
theorem parse_of_effects (acts : record.Acts effect?) {document : Document}
    {effects : List (β → β)} (given : document.members.map (effectOf? effect?) = effects.map some)
    (distinct : (document.members.map Member.name?).Nodup) :
    parse record.read document.text =
      .ok (effects.foldl (fun state act => act state) record.initial) := by
  rw [← toOption_eq_some_iff, parse_document acts]
  exact follow?_of_effects given (by rwa [List.map_nil, List.append_nil]) record.initial

/-- Every other object is refused. -/
theorem effects_of_parse (acts : record.Acts effect?) {document : Document} {value : β}
    (parsed : parse record.read document.text = .ok value) :
    (∀ member ∈ document.members, effectOf? effect? member ≠ none) ∧
      (document.members.map Member.name?).Nodup := by
  rw [← toOption_eq_some_iff, parse_document acts] at parsed
  obtain ⟨reached, followed, _⟩ := Option.map_eq_some_iff.mp parsed
  obtain ⟨effects, distinct, _⟩ := effects_of_follow? followed
  exact ⟨effects, distinct⟩

end SqliteBridge.Json.Record
