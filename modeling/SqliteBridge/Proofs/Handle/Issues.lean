import SqliteBridge.Proofs.Handle.Correspondence

/-! Tokens that are issued over a stretch of time, listed with their objects. A list that was kept
from the beginning has the token of every object that has one, and the tokens that were given up. -/
namespace SqliteBridge.Handle.Population

variable {α : Type} {before after population : Population α} {object : α} {token : Token}
  {issued later : List (Token × α)}

/-- The tokens that objects get over a stretch of time, and no others. -/
structure Issues (issued : List (Token × α)) (before after : Population α) : Prop where
  live {object : α} {token : Token} (live : after.reference object = .live token) :
    before.reference object = .live token ∨ (token, object) ∈ issued
  settled {object : α} {token : Token} (listed : (token, object) ∈ issued) :
    Token.ofRaw? token.raw = some token ∧
      (after.reference object = .live token ∨ after.reference object = .disposed)
  kept {object : α} {token : Token} (live : before.reference object = .live token) :
    after.reference object = .live token ∨ after.reference object = .disposed
  disposed {object : α} (disposed : before.reference object = .disposed) :
    after.reference object = .disposed

namespace Issues

theorem refl : Issues [] population population := ⟨.inl, nofun, .inl, id⟩

theorem of_eq (same : after.reference = before.reference) : Issues [] before after :=
  ⟨fun live => .inl (same ▸ live), nofun, fun live => .inl (same ▸ live), fun state => same ▸ state⟩

theorem trans {first second third : Population α} (early : Issues issued first second)
    (late : Issues later second third) : Issues (issued ++ later) first third where
  live live := by
    obtain live | listed := late.live live
    · exact (early.live live).imp_right (List.mem_append_left later)
    · exact .inr (List.mem_append_right issued listed)
  settled listed := by
    obtain listed | listed := List.mem_append.mp listed
    · obtain ⟨valid, live | disposed⟩ := early.settled listed
      · exact ⟨valid, late.kept live⟩
      · exact ⟨valid, .inr (late.disposed disposed)⟩
    · exact late.settled listed
  kept live := by
    obtain live | disposed := early.kept live
    · exact late.kept live
    · exact .inr (late.disposed disposed)
  disposed disposed := late.disposed (early.disposed disposed)

end Issues

variable [DecidableEq α]

theorem issues_disposeToken (population : Population α) (object : α) :
    Issues [] population (population.disposeToken object) := by
  refine ⟨fun {other _} live => ?_, nofun, fun {other _} live => ?_, fun {other} disposed => ?_⟩ <;>
    rw [reference_disposeToken] at *
  · split at live
    · cases live
    · exact .inl live
  · split
    · exact .inr rfl
    · exact .inl live
  · rw [disposed, ite_self]

theorem issues_toToken_ok (matched : Matched population)
    (made : (population.toToken object).1 = .ok token) :
    Issues [(token, object)] population (population.toToken object).2 := by
  have live := reference_of_toToken matched made
  have matched' := follow_matched matched (.toToken object)
  have found := (matched'.get?_iff token object).mpr live
  refine ⟨fun {other _} live' => ?_, fun listed => ?_, fun {other _} live' => ?_,
    fun {other} disposed => ?_⟩
  · by_cases same : other = object
    · subst same
      cases live.symm.trans live'
      exact .inr (List.mem_singleton_self _)
    · rw [reference_toToken_of_ne population same] at live'
      exact .inl live'
  · cases List.mem_singleton.mp listed
    exact ⟨Table.ofRaw?_of_get? matched'.consistent found, .inl live⟩
  · exact .inl ((reference_follow_toToken matched (by simp [live'])).trans live')
  · exact (reference_follow_toToken matched (by simp [disposed])).trans disposed

theorem issues_toToken_error {failure : Failure} (matched : Matched population)
    (refused : (population.toToken object).1 = .error failure) :
    Issues [] population (population.toToken object).2 := by
  obtain ⟨_, _, made⟩ | ⟨_, made⟩ | ⟨_, made⟩ | ⟨_, _, _, _, made⟩ := toToken_cases matched object <;>
    rw [made] at refused ⊢
  · exact .refl
  · exact .refl
  · exact .refl
  · cases refused

/-- A list of all tokens that were issued so far. -/
structure Lists (issued : List (Token × α)) (population : Population α) : Prop where
  complete {object : α} {token : Token} (live : population.reference object = .live token) :
    (token, object) ∈ issued
  settled {object : α} {token : Token} (listed : (token, object) ∈ issued) :
    Token.ofRaw? token.raw = some token ∧
      (population.reference object = .live token ∨ population.reference object = .disposed)

omit [DecidableEq α] in
theorem lists_withCapacity (limit : Nat) : Lists [] (withCapacity limit : Population α) :=
  ⟨nofun, nofun⟩

omit [DecidableEq α] in
theorem Lists.issues (lists : Lists issued before) (issues : Issues later before after) :
    Lists (issued ++ later) after where
  complete live := by
    obtain live | listed := issues.live live
    · exact List.mem_append_left later (lists.complete live)
    · exact List.mem_append_right issued listed
  settled listed := by
    obtain listed | listed := List.mem_append.mp listed
    · obtain ⟨valid, live | disposed⟩ := lists.settled listed
      · exact ⟨valid, issues.kept live⟩
      · exact ⟨valid, .inr (issues.disposed disposed)⟩
    · exact issues.settled listed

/-- No token was issued to two objects. -/
def IssuedOnce (issued : List (Token × α)) : Prop :=
  ∀ entry ∈ issued, ∀ other ∈ issued, entry.1 = other.1 → entry.2 = other.2

instance (issued : List (Token × α)) : Decidable (IssuedOnce issued) :=
  inferInstanceAs (Decidable (∀ entry ∈ issued, ∀ other ∈ issued, entry.1 = other.1 →
    entry.2 = other.2))

omit [DecidableEq α] in
theorem IssuedOnce.of_prefix (once : IssuedOnce later) (early : issued <+: later) :
    IssuedOnce issued := fun entry listed other listed' =>
  once entry (early.mem listed) other (early.mem listed')

omit [DecidableEq α] in
/-- A token that was issued once stands for its object until the object gives it up, and then for
none. -/
theorem Lists.get?_eq (lists : Lists issued population) (matched : Matched population)
    (once : IssuedOnce issued) (listed : (token, object) ∈ issued) :
    population.table.get? token =
      if population.reference object = .live token then some object else none := by
  split
  · rename_i live
    exact (matched.get?_iff token object).mpr live
  · rename_i gone
    cases found : population.table.get? token with
    | none => rfl
    | some other =>
      have live := (matched.get?_iff token other).mp found
      cases once _ (lists.complete live) _ listed rfl
      exact absurd live gone

end SqliteBridge.Handle.Population
