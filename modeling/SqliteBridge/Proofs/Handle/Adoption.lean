import SqliteBridge.Handle.Reference

/-! The life of one reference, over calls in any order. A creation is run while the reference has
no token and was not disposed of. One that fails or aborts leaves the reference as it was, so that
the next call can try again; the token of the first that succeeds is the only one that any call
ever tells, and the first disposal takes it away for good. -/
namespace SqliteBridge.Handle.Reference

variable {σ : Type}

/-- A call on a reference. A creation may read and change a state that it shares with others. -/
inductive Call (σ : Type) where
  | adopt (create : σ → Except Failure Token × σ)
  | token
  | dispose
  | isDisposed

/-- What a call came to. Of an adoption it also tells what the creation came to, if it was run. -/
inductive Event where
  | adoption (outcome? : Option (Except Failure Token)) (answer : Except Failure Token)
  | look (answer : Option Token)
  | disposal (answer : Option Token)
  | check (answer : Bool)

namespace Event

def outcome? : Event → Option (Except Failure Token)
  | adoption outcome? _ => outcome?
  | _ => none

/-- The token that a creation gave. -/
def adopted? : Event → Option Token
  | adoption (some (.ok token)) _ => some token
  | _ => none

/-- The token that a call answered with. -/
def told? : Event → Option Token
  | adoption _ (.ok token) => some token
  | look answer => answer
  | disposal answer => answer
  | _ => none

def isDisposal : Event → Bool
  | disposal _ => true
  | _ => false

end Event

/-- A creation that notes what it came to. -/
def noting (create : σ → Except Failure Token × σ) (state : σ × Option (Except Failure Token)) :
    Except Failure Token × σ × Option (Except Failure Token) :=
  match create state.1 with
  | (outcome, world) => (outcome, world, some outcome)

/-- A reference, the state that creations share, and what the calls so far came to. -/
structure Life (σ : Type) where
  reference : Reference
  world : σ
  events : List Event

namespace Life

variable {life : Life σ} {token : Token}

def start (world : σ) : Life σ := ⟨.unset, world, []⟩

def perform (life : Life σ) : Call σ → Event × Reference × σ
  | .adopt create =>
    match life.reference.adopt (life.world, none) (noting create) with
    | (answer, reference, world, outcome?) => (.adoption outcome? answer, reference, world)
  | .token => (.look life.reference.token?, life.reference, life.world)
  | .dispose =>
    match life.reference.dispose with
    | (answer, reference) => (.disposal answer, reference, life.world)
  | .isDisposed => (.check life.reference.isDisposed, life.reference, life.world)

def follow (life : Life σ) (call : Call σ) : Life σ :=
  match life.perform call with
  | (event, reference, world) => ⟨reference, world, life.events ++ [event]⟩

def run (life : Life σ) (calls : List (Call σ)) : Life σ := calls.foldl follow life

/-- The tokens that creations gave so far. -/
def adopted (life : Life σ) : List Token := life.events.filterMap Event.adopted?

/-- Whether the reference was disposed of so far, with a token or without. -/
def wasDisposed (life : Life σ) : Bool := life.events.any Event.isDisposal

theorem adopted_follow (life : Life σ) (call : Call σ) :
    (life.follow call).adopted = life.adopted ++ (life.perform call).1.adopted?.toList := by
  rw [adopted, follow, List.filterMap_append, List.filterMap_cons, List.filterMap_nil]
  cases (life.perform call).1.adopted? <;> rfl

theorem wasDisposed_follow (life : Life σ) (call : Call σ) :
    (life.follow call).wasDisposed = (life.wasDisposed || (life.perform call).1.isDisposal) := by
  rw [wasDisposed, follow, List.any_append, List.any_cons, List.any_nil, Bool.or_false]
  rfl

/-! ### Adoptions -/

section Adoption

variable (create : σ → Except Failure Token × σ)

/-- What an unset reference becomes when a creation was run. -/
def received : Except Failure Token → Reference
  | .ok token => .live token
  | .error _ => .unset

theorem perform_adopt_unset (unset : life.reference = .unset) {outcome : Except Failure Token}
    {world : σ} (made : create life.world = (outcome, world)) :
    life.perform (.adopt create) = (.adoption (some outcome) outcome, received outcome, world) := by
  rw [perform, unset]
  cases outcome <;> simp [Reference.adopt, noting, made, received]

theorem perform_adopt_live (live : life.reference = .live token) :
    life.perform (.adopt create) = (.adoption none (.ok token), life.reference, life.world) := by
  rw [perform, live]
  rfl

theorem perform_adopt_disposed (disposed : life.reference = .disposed) :
    life.perform (.adopt create) =
      (.adoption none (.error (.aborted disposedMessage)), life.reference, life.world) := by
  rw [perform, disposed]
  rfl

end Adoption

/-! ### What a reference knows of its life -/

/-- A reference knows the token that a creation gave it until it is disposed of. -/
def Agrees (life : Life σ) : Prop :=
  match life.reference with
  | .unset => life.adopted = [] ∧ life.wasDisposed = false
  | .live token => life.adopted = [token] ∧ life.wasDisposed = false
  | .disposed => life.adopted.length ≤ 1 ∧ life.wasDisposed = true

theorem Agrees.unset (agrees : Agrees life) (unset : life.reference = .unset) :
    life.adopted = [] ∧ life.wasDisposed = false := by
  rwa [Agrees, unset] at agrees

theorem Agrees.live (agrees : Agrees life) (live : life.reference = .live token) :
    life.adopted = [token] ∧ life.wasDisposed = false := by
  rwa [Agrees, live] at agrees

theorem Agrees.disposed (agrees : Agrees life) (disposed : life.reference = .disposed) :
    life.adopted.length ≤ 1 ∧ life.wasDisposed = true := by
  rwa [Agrees, disposed] at agrees

theorem Agrees.once (agrees : Agrees life) : life.adopted.length ≤ 1 := by
  cases state : life.reference with
  | unset => simp [agrees.unset state]
  | live token => simp [agrees.live state]
  | disposed => exact (agrees.disposed state).1

theorem Agrees.token?_eq_some_iff (agrees : Agrees life) :
    life.reference.token? = some token ↔ life.wasDisposed = false ∧ life.adopted = [token] := by
  cases state : life.reference with
  | unset => simp [token?, agrees.unset state]
  | live held => simp [token?, agrees.live state]
  | disposed => simp [token?, agrees.disposed state]

theorem Agrees.isDisposed_eq (agrees : Agrees life) :
    life.reference.isDisposed = life.wasDisposed := by
  cases state : life.reference with
  | unset => simp [isDisposed, agrees.unset state]
  | live held => simp [isDisposed, agrees.live state]
  | disposed => simp [isDisposed, agrees.disposed state]

theorem Agrees.reference_eq_disposed (agrees : Agrees life) (gone : life.wasDisposed = true) :
    life.reference = .disposed := by
  rw [← agrees.isDisposed_eq] at gone
  cases state : life.reference with
  | disposed => rfl
  | unset | live _ =>
    rw [state] at gone
    contradiction

/-- A call that runs no creation and disposes of nothing changes nothing that matters. -/
theorem Agrees.kept (agrees : Agrees life) (call : Call σ) {event : Event}
    (performed : life.perform call = (event, life.reference, life.world))
    (plain : event.adopted? = none ∧ event.isDisposal = false) :
    Agrees (life.follow call) ∧ (life.follow call).adopted = life.adopted := by
  have adopted_eq : (life.follow call).adopted = life.adopted := by
    rw [adopted_follow, performed, plain.1]
    exact List.append_nil _
  have wasDisposed_eq : (life.follow call).wasDisposed = life.wasDisposed := by
    rw [wasDisposed_follow, performed, plain.2, Bool.or_false]
  have reference_eq : (life.follow call).reference = life.reference := by
    rw [follow, performed]
  refine ⟨?_, adopted_eq⟩
  rw [Agrees, adopted_eq, wasDisposed_eq, reference_eq]
  exact agrees

/-- A call leaves the reference in agreement, and tells no token but the one adopted. -/
theorem follow_agrees (agrees : Agrees life) (call : Call σ) :
    Agrees (life.follow call) ∧ ∀ token, (life.perform call).1.told? = some token →
      (life.follow call).adopted = [token] := by
  cases call with
  | adopt create =>
    cases state : life.reference with
    | unset =>
      have nothing := agrees.unset state
      rcases made : create life.world with ⟨outcome, world⟩
      have performed := perform_adopt_unset create state made
      rw [Agrees, adopted_follow, wasDisposed_follow, follow, performed, nothing.1, nothing.2]
      cases outcome <;> simp [received, Event.adopted?, Event.told?, Event.isDisposal]
    | live token =>
      have performed := perform_adopt_live create state
      obtain ⟨kept, adopted_eq⟩ := agrees.kept (.adopt create) performed ⟨rfl, rfl⟩
      refine ⟨kept, fun other tells => ?_⟩
      rw [performed] at tells
      cases Option.some.inj tells
      exact adopted_eq.trans (agrees.live state).1
    | disposed =>
      have performed := perform_adopt_disposed create state
      refine ⟨(agrees.kept (.adopt create) performed ⟨rfl, rfl⟩).1, fun token tells => ?_⟩
      rw [performed] at tells
      contradiction
  | token =>
    obtain ⟨kept, adopted_eq⟩ := agrees.kept .token rfl ⟨rfl, rfl⟩
    exact ⟨kept, fun token tells => adopted_eq.trans (agrees.token?_eq_some_iff.mp tells).2⟩
  | isDisposed =>
    obtain ⟨kept, -⟩ := agrees.kept .isDisposed rfl ⟨rfl, rfl⟩
    exact ⟨kept, fun token tells => nomatch tells⟩
  | dispose =>
    have adopted_eq : (life.follow .dispose).adopted = life.adopted :=
      (adopted_follow life .dispose).trans (List.append_nil _)
    have wasDisposed_eq : (life.follow .dispose).wasDisposed = true :=
      (wasDisposed_follow life .dispose).trans (Bool.or_true _)
    refine ⟨⟨?_, wasDisposed_eq⟩, fun token tells => ?_⟩
    · rw [adopted_eq]
      exact agrees.once
    · exact adopted_eq.trans (agrees.token?_eq_some_iff.mp tells).2

/-! ### Whole lives -/

/-- What holds of a life besides: no call has told a token but the one adopted. -/
structure Sound (life : Life σ) : Prop where
  agrees : Agrees life
  told : ∀ event ∈ life.events, ∀ token, event.told? = some token → life.adopted = [token]

theorem start_sound (world : σ) : Sound (start world) where
  agrees := ⟨rfl, rfl⟩
  told _ listed := absurd listed List.not_mem_nil

theorem follow_sound (sound : Sound life) (call : Call σ) : Sound (life.follow call) := by
  obtain ⟨agrees, tells⟩ := follow_agrees sound.agrees call
  refine ⟨agrees, fun event listed token told => ?_⟩
  rcases List.mem_append.mp listed with before | last
  · -- A second token would be one too many.
    have once := agrees.once
    have grown := adopted_follow life call
    rw [sound.told event before token told] at grown
    rw [grown] at once ⊢
    have nothing : (life.perform call).1.adopted?.toList = [] :=
      List.eq_nil_of_length_eq_zero (by simpa using once)
    rw [nothing, List.append_nil]
  · rw [List.mem_singleton.mp last] at told
    exact tells token told

theorem run_sound (sound : Sound life) (calls : List (Call σ)) : Sound (life.run calls) := by
  induction calls generalizing life with
  | nil => exact sound
  | cons call rest ih => exact ih (follow_sound sound call)

/-- What holds at every moment of a life, of the calls so far and of the next one. -/
structure AdoptsOnce (life : Life σ) : Prop where
  /-- No more than one creation has given a token, and no other token was ever told. -/
  adopted_once : life.adopted.length ≤ 1
  told : ∀ event ∈ life.events, ∀ token, event.told? = some token → life.adopted = [token]
  runs_iff : ∀ create, (life.perform (.adopt create)).1.outcome?.isSome = true ↔
    life.adopted = [] ∧ life.wasDisposed = false
  /-- A creation that is run is run once, on the state as it is. The call answers with what it
  came to, and only its success changes the reference. -/
  runs : ∀ create outcome, (life.perform (.adopt create)).1.outcome? = some outcome →
    ∃ world, create life.world = (outcome, world) ∧
      (life.perform (.adopt create)).1 = .adoption (some outcome) outcome ∧
      (life.perform (.adopt create)).2.2 = world ∧
      ∀ failure, outcome = .error failure →
        (life.perform (.adopt create)).2.1 = life.reference
  /-- A creation that is not run has no effect. -/
  idle : ∀ create, (life.perform (.adopt create)).1.outcome? = none →
    (life.perform (.adopt create)).2 = (life.reference, life.world)
  adopt_token : ∀ create outcome? token,
    (life.perform (.adopt create)).1 = .adoption outcome? (.ok token) →
      (life.follow (.adopt create)).adopted = [token]
  token_iff : ∀ token, (life.perform .token).1 = .look (some token) ↔
    life.wasDisposed = false ∧ life.adopted = [token]
  dispose_iff : ∀ token, (life.perform .dispose).1 = .disposal (some token) ↔
    life.wasDisposed = false ∧ life.adopted = [token]
  isDisposed_eq : (life.perform .isDisposed).1 = .check life.wasDisposed
  disposed : life.wasDisposed = true →
    (life.perform .token).1 = .look none ∧ (life.perform .isDisposed).1 = .check true ∧
      ∀ create, life.perform (.adopt create) =
        (.adoption none (.error (.aborted disposedMessage)), life.reference, life.world)

/-- How an adoption goes, by what has happened in the life before. -/
theorem Agrees.adopt_cases (agrees : Agrees life) (create : σ → Except Failure Token × σ) :
    (life.adopted = [] ∧ life.wasDisposed = false ∧ life.reference = .unset ∧
      ∃ outcome world, create life.world = (outcome, world) ∧
        life.perform (.adopt create) =
          (.adoption (some outcome) outcome, received outcome, world)) ∨
    (∃ token, life.adopted = [token] ∧ life.wasDisposed = false ∧
      life.perform (.adopt create) = (.adoption none (.ok token), life.reference, life.world)) ∨
    (life.wasDisposed = true ∧ life.perform (.adopt create) =
      (.adoption none (.error (.aborted disposedMessage)), life.reference, life.world)) := by
  cases state : life.reference with
  | unset =>
    obtain ⟨none, fresh⟩ := agrees.unset state
    exact .inl ⟨none, fresh, rfl, _, _, rfl, perform_adopt_unset create state rfl⟩
  | live token =>
    obtain ⟨one, fresh⟩ := agrees.live state
    exact .inr (.inl ⟨token, one, fresh, state ▸ perform_adopt_live create state⟩)
  | disposed =>
    exact .inr (.inr ⟨(agrees.disposed state).2, state ▸ perform_adopt_disposed create state⟩)

theorem Sound.adoptsOnce (sound : Sound life) : AdoptsOnce life where
  adopted_once := sound.agrees.once
  told := sound.told
  runs_iff create := by
    rcases sound.agrees.adopt_cases create with
      ⟨none, fresh, -, outcome, world, -, performed⟩ | ⟨token, one, -, performed⟩ |
        ⟨disposed, performed⟩ <;> rw [performed, Event.outcome?]
    · simp [none, fresh]
    · simp [one]
    · simp [disposed]
  runs create outcome ran := by
    rcases sound.agrees.adopt_cases create with
      ⟨-, -, unset, outcome', world, made, performed⟩ | ⟨_, -, -, performed⟩ | ⟨-, performed⟩ <;>
      rw [performed] at ran ⊢ <;> cases ran
    refine ⟨world, made, rfl, rfl, ?_⟩
    rintro failure rfl
    exact unset.symm
  idle create idle := by
    rcases sound.agrees.adopt_cases create with
      ⟨-, -, -, outcome, world, -, performed⟩ | ⟨_, -, -, performed⟩ | ⟨-, performed⟩ <;>
      rw [performed] at idle ⊢
    contradiction
  adopt_token create outcome? token answered :=
    (follow_agrees sound.agrees (.adopt create)).2 token (by rw [answered]; rfl)
  token_iff token := by
    rw [← sound.agrees.token?_eq_some_iff, perform, Event.look.injEq]
  dispose_iff token := by
    rw [← sound.agrees.token?_eq_some_iff, perform, dispose, Event.disposal.injEq]
  isDisposed_eq := congrArg Event.check sound.agrees.isDisposed_eq
  disposed gone := by
    have spent := sound.agrees.reference_eq_disposed gone
    refine ⟨?_, ?_, fun create => perform_adopt_disposed create spent⟩
    · rw [perform, spent]
      rfl
    · rw [perform, spent]
      rfl

/-- At every moment of a life a creation runs exactly if no token was adopted and nothing disposed
of the reference; the token of one creation is all that any call ever tells; and only the first
disposal gives it up. -/
theorem run_adoptsOnce (world : σ) (calls : List (Call σ)) : AdoptsOnce ((start world).run calls) :=
  (run_sound (start_sound world) calls).adoptsOnce

end Life

end SqliteBridge.Handle.Reference
