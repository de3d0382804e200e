import SqliteBridge.Proofs.Boundary.Exchanges

/-! Callers do not notice each other. What a caller is told in a run that it shares with others is
what it is told when it runs alone, but for the values of tokens, as long as there is room in the
tables of tokens and no token is issued twice. -/
namespace SqliteBridge.Boundary

open Handle (Token)
open Handle.Population (IssuedOnce)
open Native (Library)
open Session (Act CallsRegistered Decides Evolves Throughout)

variable {library : Library} {separation : Separation library} {conduct : Conduct library}
  {answer : Callback → List (Option Callback × AuthorizationRequest) → Answer} {caller : Nat}
  {first second : Shared library}

/-- Whether a line that opens a database opens one in memory. -/
def Line.staysInMemory : Line → Bool
  | act (.perform (.openWith config)) => config.path = memoryPath
  | call _ (.openConnection (some path)) => path = memoryPath
  | _ => true

theorem target_eq_nothing {request : Session.Request}
    (nothing : (Act.perform request).connection? = none) : request.target = .nothing := by
  rw [Act.connection?] at nothing
  cases target : request.target with
  | nothing => rfl
  | connection | statement =>
    rw [target] at nothing
    cases nothing

namespace Shared

/-- No callback is asked but the registered one, and no token is issued twice. -/
structure Orderly (shared : Shared library) : Prop where
  registered : Throughout CallsRegistered shared.session.log
  connectionTokens : IssuedOnce shared.books.connectionTokens
  statementTokens : IssuedOnce shared.books.statementTokens

/-! ### What is on record stays on record -/

structure Grows (before after : Shared library) : Prop where
  log_suffix : before.session.log <:+ after.session.log
  matched (matched : before.session.TokensMatched) : after.session.TokensMatched
  connectionTokens : before.books.connectionTokens <+: after.books.connectionTokens
  statementTokens : before.books.statementTokens <+: after.books.statementTokens

namespace Grows

variable {before after : Shared library}

theorem refl (shared : Shared library) : Grows shared shared :=
  ⟨List.suffix_refl _, id, List.prefix_refl _, List.prefix_refl _⟩

theorem trans {first second third : Shared library} (early : Grows first second)
    (late : Grows second third) : Grows first third :=
  ⟨early.log_suffix.trans late.log_suffix, fun matched => late.matched (early.matched matched),
    early.connectionTokens.trans late.connectionTokens,
    early.statementTokens.trans late.statementTokens⟩

theorem of_evolves {added : Books} {allowed : Act → Prop}
    (evolves : Evolves allowed before.session after.session)
    (books : after.books = before.books.add added) : Grows before after where
  log_suffix := (evolves.path (.any library)).log_suffix
  matched := (evolves.path (.any library)).tokensMatched
  connectionTokens := books ▸ List.prefix_append _ _
  statementTokens := books ▸ List.prefix_append _ _

theorem of_served {added : Books} {subject : Nat}
    (served : Served separation caller subject added before after) : Grows before after where
  log_suffix := served.advance.log_suffix
  matched := served.advance.matched
  connectionTokens := served.books ▸ List.prefix_append _ _
  statementTokens := served.books ▸ List.prefix_append _ _

theorem orderly (grows : Grows before after) (orderly : after.Orderly) : before.Orderly where
  registered := orderly.registered.suffix grows.log_suffix
  connectionTokens := orderly.connectionTokens.of_prefix grows.connectionTokens
  statementTokens := orderly.statementTokens.of_prefix grows.statementTokens

end Grows

variable {shared : Shared library}

theorem serve_grows (separation : Separation library) (decides : Decides conduct answer)
    (matched : shared.session.TokensMatched) (caller : Nat) (line : Line) :
    Grows shared (shared.serve conduct caller line).2 := by
  have keeps (id : Nat) : Session.Keeps conduct (fun _ => True) id := by
    intro callback request during
    rw [decides.leaves]
    exact .rest
  cases line with
  | act act =>
    simp only [serve]
    split
    · rename_i nothing
      exact .of_served (acted_served_of_nothing separation conduct caller shared nothing)
    · rename_i place about
      split
      · exact .refl shared
      · rename_i id own
        have evolves := Evolves.single (act.withConnection id) (Act.connection?_withConnection about)
          trivial (keeps id) shared.session
        rw [← tell_snd] at evolves
        exact .of_evolves evolves rfl
  | call object call =>
    simp only [serve]
    split
    · rename_i untokened
      exact .of_served (called_served_of_nothing separation decides caller matched untokened)
    · rename_i takes
      split
      · exact .refl shared
      · rename_i token named
        cases asked : (call.withToken token.raw).request shared.session with
        | error failure =>
          have same := congrArg Prod.snd (Call.body_refused conduct asked)
          have rest : Evolves (fun _ => True) shared.session
              ((call.withToken token.raw).body conduct shared.session).2 := same ▸ .rest
          exact .of_evolves rest rfl
        | ok request =>
          cases about : (Act.perform request).connection? with
          | none =>
            have untokened := (target_eq_nothing_iff asked).mp (target_eq_nothing about)
            rw [Call.token?_withToken, takes] at untokened
            cases untokened
          | some subject =>
            exact .of_evolves (body_evolves asked about (fun _ _ => trivial) (keeps subject)) rfl

theorem run_grows (separation : Separation library) (decides : Decides conduct answer)
    (matched : shared.session.TokensMatched) (lines : List (Nat × Line)) :
    Grows shared (shared.run conduct lines).2 := by
  induction lines generalizing shared with
  | nil => exact .refl shared
  | cons line lines ih =>
    have grows := serve_grows separation decides matched line.1 line.2
    exact grows.trans (ih (grows.matched matched))

/-! ### One line -/

/-- In both runs an object that is named has a token on the books, or in neither. -/
theorem Accord.isSome_token? (accord : Accord separation caller first second) (object : StatementId)
    (call : Call) : (first.books.token? caller object call).isSome =
      (second.books.token? caller object call).isSome := by
  rw [Books.token?, Books.token?]
  cases own : (first.books.own caller)[object.connection]? with
  | none =>
    have isOut := List.getElem?_eq_none_iff.mp own
    rw [List.getElem?_eq_none_iff.mpr (accord.length_eq ▸ isOut)]
    rfl
  | some id =>
    have isIn := (List.getElem?_eq_some_iff.mp own).1
    have own' := List.getElem?_eq_getElem (accord.length_eq ▸ isIn)
    have pair := accord.pairs own own'
    rw [own', Option.bind_some, Option.bind_some]
    split
    · exact pair.connectionToken
    · exact pair.statementToken object.index

section Serving

variable (accord : Accord separation caller first second) (decides : Decides conduct answer)
  (orderly : first.Orderly) (orderly' : second.Orderly)

include accord decides orderly orderly'

/-- A line of the caller's own, in both runs. -/
theorem Accord.serve {line : Line} (inMemory : line.staysInMemory = true)
    (registered : Throughout CallsRegistered (first.serve conduct caller line).2.session.log)
    (registered' : Throughout CallsRegistered (second.serve conduct caller line).2.session.log)
    (room : (first.serve conduct caller line).1.lacksRoom = false)
    (room' : (second.serve conduct caller line).1.lacksRoom = false) :
    (first.serve conduct caller line).1.anonymous =
        (second.serve conduct caller line).1.anonymous ∧
      Accord separation caller (first.serve conduct caller line).2
        (second.serve conduct caller line).2 := by
  cases line with
  | act act =>
    cases about : act.connection? with
    | none =>
      simp only [Shared.serve, about] at registered registered' ⊢
      refine accord.acted_of_nothing about ?_ registered registered'
      rintro config rfl
      exact of_decide_eq_true inMemory
    | some place =>
      cases own : (first.books.own caller)[place]? with
      | none =>
        have isOut := List.getElem?_eq_none_iff.mp own
        have own' := List.getElem?_eq_none_iff.mpr (accord.length_eq ▸ isOut)
        simp only [Shared.serve, about, own, own']
        exact ⟨trivial, accord⟩
      | some id =>
        have isIn := (List.getElem?_eq_some_iff.mp own).1
        obtain ⟨id', own'⟩ : ∃ id', (second.books.own caller)[place]? = some id' :=
          ⟨_, List.getElem?_eq_getElem (accord.length_eq ▸ isIn)⟩
        simp only [Shared.serve, about, own, own'] at registered registered' room room' ⊢
        have pair := accord.pairs own own'
        have isOld := accord.kept.own_isOld own
        have isOld' := accord.kept'.own_isOld own'
        obtain ⟨same, alike⟩ := acted_alike decides accord.kept accord.kept' pair about registered
          registered' room room'
        have isAbout (id : Nat) : (act.withConnection id).connection? = some id :=
          Act.connection?_withConnection about
        have served := acted_served separation decides accord.kept.healthy.matched (isAbout id)
          (List.mem_of_getElem? own) isOld
        have served' := acted_served separation decides accord.kept'.healthy.matched (isAbout id')
          (List.mem_of_getElem? own') isOld'
        exact ⟨same, accord.of_pair served served' registered registered'
          (served.unopened_of_lt isOld) (served'.unopened_of_lt isOld') own own' alike⟩
  | call object call =>
    cases takes : call.token? with
    | none =>
      simp only [Shared.serve, takes] at registered registered' room room' ⊢
      refine accord.called_of_nothing decides takes ?_ registered registered' room room'
      rintro path rfl
      exact of_decide_eq_true inMemory
    | some raw =>
      have isSome := accord.isSome_token? object call
      cases named : first.books.token? caller object call with
      | none =>
        rw [named] at isSome
        have named' := Option.isSome_eq_false_iff.mp isSome.symm
        rw [Option.isNone_iff_eq_none] at named'
        simp only [Shared.serve, takes, named, named']
        exact ⟨trivial, accord⟩
      | some token =>
        rw [named] at isSome
        obtain ⟨token', named'⟩ := Option.isSome_iff_exists.mp isSome.symm
        simp only [Shared.serve, takes, named, named'] at registered registered' room room' ⊢
        exact accord.called decides orderly.connectionTokens orderly.statementTokens
          orderly'.connectionTokens orderly'.statementTokens (takes ▸ rfl) named named' registered
          registered' room room'

end Serving

/-! ### Runs -/

/-- What a caller is told, apart from what others are told. -/
def told (caller : Nat) (exchanges : List (Nat × Exchange)) : List Exchange :=
  (exchanges.filter fun entry => entry.1 = caller).map Prod.snd

/-- A run in which a caller is never refused a token for want of room. -/
structure Smooth (caller : Nat) (outcome : List (Nat × Exchange) × Shared library) : Prop where
  orderly : outcome.2.Orderly
  roomy : ∀ exchange ∈ told caller outcome.1, exchange.lacksRoom = false

/-- A shared run beside a run of the caller's lines alone. -/
theorem Accord.run (decides : Decides conduct answer) (lines : List (Nat × Line))
    (inMemory : ∀ line ∈ lines, line.1 = caller → line.2.staysInMemory = true)
    (accord : Accord separation caller first second) :
    let alone := lines.filter fun line => line.1 = caller
    Smooth caller (first.run conduct lines) → Smooth caller (second.run conduct alone) →
    (told caller (first.run conduct lines).1).map Exchange.anonymous =
      (told caller (second.run conduct alone).1).map Exchange.anonymous := by
  induction lines generalizing first second with
  | nil => exact fun _ _ => rfl
  | cons entry lines ih =>
    obtain ⟨other, line⟩ := entry
    rintro alone ⟨orderly, room⟩ ⟨orderly', room'⟩
    have inMemory' := fun line listed => inMemory line (List.mem_cons_of_mem _ listed)
    have matched := accord.kept.healthy.matched
    have grows := serve_grows separation decides matched other line
    have later := (run_grows separation decides (grows.matched matched) lines).orderly orderly
    by_cases own : other = caller
    · subst own
      have matched' := accord.kept'.healthy.matched
      have grows' := serve_grows separation decides matched' other line
      have isAlone : alone = (other, line) :: lines.filter fun line => line.1 = other :=
        List.filter_cons_of_pos (by simp)
      rw [isAlone] at orderly' room' ⊢
      have later' := (run_grows separation decides (grows'.matched matched') _).orderly orderly'
      simp only [Shared.run, told, List.filter_cons_of_pos, decide_true, List.map_cons,
        List.forall_mem_cons] at room room' ⊢
      obtain ⟨same, accord⟩ := accord.serve decides (grows.orderly later) (grows'.orderly later')
        (inMemory _ List.mem_cons_self rfl) later.registered later'.registered room.1 room'.1
      exact congrArg₂ List.cons same (ih inMemory' accord ⟨orderly, room.2⟩ ⟨orderly', room'.2⟩)
    · have isAlone : alone = lines.filter fun line => line.1 = caller :=
        List.filter_cons_of_neg (by simpa using own)
      rw [isAlone] at orderly' room' ⊢
      obtain ⟨subject, added, served⟩ := serve_served separation decides accord.kept
        (grows.orderly later).connectionTokens (grows.orderly later).statementTokens other line
      have untold : told caller (first.run conduct ((other, line) :: lines)).1 =
          told caller ((first.serve conduct other line).2.run conduct lines).1 :=
        congrArg (List.map Prod.snd) (List.filter_cons_of_neg (by simpa using own))
      rw [untold] at room ⊢
      exact ih inMemory' (accord.other own served later.registered) ⟨orderly, room⟩ ⟨orderly', room'⟩

end Shared

end SqliteBridge.Boundary
