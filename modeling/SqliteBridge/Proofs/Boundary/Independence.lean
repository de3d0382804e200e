import SqliteBridge.Proofs.Boundary.Interleaving

/-! Connections are independent. What is asked of one leaves the others as they are, and callers
with connections of their own do not notice each other. They share the tables of tokens, though, and
a callback may do to another connection whatever it likes. -/
namespace SqliteBridge.Boundary

open Handle (Token)
open Native (Course Library)
open Shared (Smooth told)
open Session (Act Decides Evolves Keeps Untouched)

variable {library : Library} {before after : Session library} {id : Nat}

/-! ### One call -/

/-- All that there is of a connection is there later on. -/
structure Undisturbed (separation : Separation library) (id : Nat) (before after : Session library) :
    Prop where
  untouched : Untouched separation id before after
  /-- The last error, the counters, the bindings and the row. -/
  told (native : Native.Call) (about : native.connection = id) (silent : native.compiles = false)
    (conduct : Conduct library) : (after.native conduct native).1 = (before.native conduct native).1
  connectionTokens (token : Token) : after.connectionTokens.table.get? token = some id ↔
    before.connectionTokens.table.get? token = some id
  statementTokens (token : Token) (index : Nat) :
    after.statementTokens.table.get? token = some ⟨id, index⟩ ↔
      before.statementTokens.table.get? token = some ⟨id, index⟩

/-- A run of acts that spare a connection. -/
theorem undisturbed_of_evolves (separation : Separation library) (reachable : before.IsReachable)
    (isOld : id < before.connections.length)
    (evolves : Evolves (Act.SparesConnection id) before after) :
    Undisturbed separation id before after := by
  have path := evolves.path separation.motion
  have untouched : ¬Session.Touched (Act.SparesConnection id) id := fun ⟨_, spares, about⟩ =>
    spares about
  have same := path.untouched reachable.boxed untouched isOld
  have matched := reachable.tokensMatched
  have matched' := path.tokensMatched matched
  refine ⟨same, fun native about silent conduct => ?_, fun token => ?_, fun token index => ?_⟩
  · subst about
    obtain ⟨result, world, result', world', ran, ran', told, -⟩ :=
      Session.native_alike separation rfl (.inr same.view) silent conduct
    rw [ran, ran']
    exact eq_of_heq told
  · rw [matched'.connections.get?_iff, matched.connections.get?_iff, same.handles.connectionToken]
  · rw [matched'.statements.get?_iff, matched.statements.get?_iff, same.handles.statementToken]

/-- For each connection the address of its callback and how many texts it has run. -/
abbrev Tallies := Nat → Option Nat × Int32

namespace Tallies

/-- A connection asks its callback about every text before it runs it. -/
def run (call : Native.Call) (tallies : Tallies) : Course Tallies call.Result :=
  match call with
  | .openV2 id _ _ => .returns ⟨0, false⟩ (Function.update tallies id (none, 0))
  | .setAuthorizer id address? =>
    .returns (0 : Int32) (Function.update tallies id (address?, (tallies id).2))
  | .changes id => .returns (tallies id).2 tallies
  | .exec id sql =>
    match (tallies id).1 with
    | none => .returns ⟨0, none⟩ (Function.update tallies id (none, (tallies id).2 + 1))
    | some address =>
      .asks address ⟨21, some sql.toUTF8, none, none, none⟩ tallies fun code tallies =>
        .returns ⟨code, none⟩ (Function.update tallies id ((tallies id).1, (tallies id).2 + 1))
  | call => .returns call.uneventful tallies

/-- What a connection can tell of its tally. -/
def view (id : Nat) (tallies : Tallies) : Bool × Int32 := ((tallies id).1.isSome, (tallies id).2)

theorem view_update_self (tallies : Tallies) (id : Nat) (tally : Option Nat × Int32) :
    view id (Function.update tallies id tally) = (tally.1.isSome, tally.2) := by
  rw [view, Function.update_self]

theorem view_update_of_ne {id other : Nat} (apart : other ≠ id) (tallies : Tallies)
    (tally : Option Nat × Int32) :
    view other (Function.update tallies id tally) = view other tallies := by
  rw [view, view, Function.update_of_ne apart]

theorem run_within (call : Native.Call) (tallies : Tallies) :
    (run call tallies).Within
      (fun before after => ∀ other ≠ call.connection, view other after = view other before)
      tallies := by
  cases call with
  | openV2 | setAuthorizer => exact fun other apart => view_update_of_ne apart _ _
  | exec id sql =>
    simp only [run]
    split
    · exact fun other apart => view_update_of_ne apart _ _
    · exact ⟨fun _ _ => rfl, fun code tallies other apart => view_update_of_ne apart _ _⟩
  | _ => exact fun _ _ => rfl

/-- A call that no tally is needed for. -/
def isPlain : Native.Call → Bool
  | .openV2 _ _ _ | .setAuthorizer _ _ | .changes _ | .exec _ _ => false
  | _ => true

theorem isPlain_anonymous (call : Native.Call) : isPlain call.anonymous = isPlain call := by
  cases call <;> rfl

theorem run_of_isPlain {call : Native.Call} (plain : isPlain call = true) (tallies : Tallies) :
    run call tallies = .returns call.uneventful tallies := by
  cases call <;> first | rfl | cases plain

theorem uneventful_anonymous (call : Native.Call) :
    HEq call.anonymous.uneventful call.uneventful := by
  cases call <;> rfl

theorem run_alike {first second : Native.Call} {tallies tallies' : Tallies}
    (same : first.anonymous = second.anonymous)
    (looks : first.opensInMemory = true ∨
      view first.connection tallies = view second.connection tallies') :
    Course.Alike (fun tallies tallies' =>
        view first.connection tallies = view second.connection tallies')
      (run first tallies) (run second tallies') := by
  cases plain : isPlain first with
  | true =>
    have plain' : isPlain second = true := by
      rw [← isPlain_anonymous, ← same, isPlain_anonymous, plain]
    rw [run_of_isPlain plain, run_of_isPlain plain']
    have told : HEq first.uneventful second.uneventful :=
      ((uneventful_anonymous first).symm.trans (congr_arg_heq Native.Call.uneventful same)).trans
        (uneventful_anonymous second)
    refine .returns told (looks.resolve_left ?_)
    cases first <;> first | exact Bool.false_ne_true | cases plain
  | false =>
    cases first with
    | openV2 id =>
      cases second with
      | openV2 id' =>
        exact .returns HEq.rfl ((view_update_self _ id _).trans (view_update_self _ id' _).symm)
      | _ => cases same
    | setAuthorizer id address? =>
      cases second with
      | setAuthorizer id' address?' =>
        have looks := looks.resolve_left Bool.false_ne_true
        have registered : address?.isSome = address?'.isSome := by
          have anonymous := (Native.Call.setAuthorizer.inj same).2
          cases address? <;> cases address?' <;> first | rfl | cases anonymous
        have count : (tallies id).2 = (tallies' id').2 := (Prod.mk.inj looks).2
        refine .returns HEq.rfl ((view_update_self _ id _).trans
          (Eq.trans ?_ (view_update_self _ id' _).symm))
        rw [registered, count]
      | _ => cases same
    | changes id =>
      cases second with
      | changes id' =>
        have looks := looks.resolve_left Bool.false_ne_true
        exact .returns (heq_of_eq (Prod.mk.inj looks).2) looks
      | _ => cases same
    | exec id sql =>
      cases second with
      | exec id' sql' =>
        obtain rfl : sql = sql' := (Native.Call.exec.inj same).2
        have looks := looks.resolve_left Bool.false_ne_true
        have registered : (tallies id).1.isSome = (tallies' id').1.isSome := (Prod.mk.inj looks).1
        have updated (tallies tallies' : Tallies)
            (looks : view id tallies = view id' tallies') :
            view id (Function.update tallies id ((tallies id).1, (tallies id).2 + 1)) =
              view id' (Function.update tallies' id' ((tallies' id').1, (tallies' id').2 + 1)) := by
          obtain ⟨registered, count⟩ := Prod.mk.inj looks
          rw [view_update_self, view_update_self, registered, count]
        have next := updated tallies tallies' looks
        simp only [run]
        cases asked : (tallies id).1 with
        | none =>
          cases asked' : (tallies' id').1 with
          | none =>
            rw [asked, asked'] at next
            exact .returns HEq.rfl next
          | some =>
            rw [asked, asked'] at registered
            cases registered
        | some =>
          cases asked' : (tallies' id').1 with
          | none =>
            rw [asked, asked'] at registered
            cases registered
          | some =>
            exact .asks looks fun code tallies tallies' looks =>
              .returns HEq.rfl (updated tallies tallies' looks)
      | _ => cases same
    | _ => cases plain

end Tallies

/-- A library that counts the texts that a connection has run, and asks its callback about each. -/
def counting : Library where
  World := Tallies
  start _ := (none, 0)
  run := Tallies.run
  isReturn_run call tallies silent := by
    cases call <;> first | rfl | cases silent
  errorString _ := none
  version := .empty

def tallies : Separation counting where
  View := Bool × Int32
  view := Tallies.view
  keeps := Tallies.run_within
  alike := Tallies.run_alike

/-- To open a database in memory. -/
def opening : Line := .call ⟨0, 0⟩ (.openConnection (some memoryPath))

theorem body_opening (conduct : Conduct counting) (session : Session counting) :
    ((Call.openConnection (some memoryPath)).body conduct session).1 =
      (session.connectionTokens.toToken session.connections.length).1.map
        fun token => .long token.raw := by
  have made : (session.openWith conduct (.file memoryPath)).1 = .ok session.connections.length := rfl
  exact congrArg Prod.fst (Shared.body_opened rfl made).1

namespace Shared

/-- Callers who open connections until there is room for no more. -/
theorem run_crowd (conduct : Conduct counting) (caller : Nat) (count : Nat)
    {shared : Shared counting} (usable : shared.session.Usable)
    (room : shared.session.connectionTokens.table.size + count =
      shared.session.connectionTokens.table.capacity) :
    let crowded := (shared.run conduct (List.replicate count (caller, opening))).2.session
    crowded.Usable ∧
      crowded.connectionTokens.table.size = crowded.connectionTokens.table.capacity ∧
      crowded.connectionTokens.table.capacity = shared.session.connectionTokens.table.capacity := by
  induction count generalizing shared with
  | zero => exact ⟨usable, room, rfl⟩
  | succ count ih =>
    have unset := usable.connections.unset _ (Nat.lt_irrefl shared.session.connections.length)
    obtain ⟨token, granted, size, capacity⟩ := Handle.Population.toToken_of_room
      usable.connections.matched unset (by omega)
    have told := body_opening conduct shared.session
    rw [granted] at told
    obtain ⟨usable', ⟨failure, failed, -⟩ | ⟨_, -, taken, -⟩⟩ :=
      Call.body_openConnection usable conduct (some memoryPath)
    · cases told.symm.trans failed
    · rw [taken] at size capacity
      have usable' : (shared.serve conduct caller opening).2.session.Usable := usable'
      have later := ih usable' (by
        refine (congrArg (· + count) size).trans (Eq.trans ?_ capacity.symm)
        omega)
      exact ⟨later.1, later.2.1, later.2.2.trans capacity⟩

theorem told_replicate {caller other : Nat} (apart : other ≠ caller) (conduct : Conduct library)
    (count : Nat) (line : Line) (shared : Shared library) :
    told caller (shared.run conduct (List.replicate count (other, line))).1 = [] := by
  induction count generalizing shared with
  | zero => rfl
  | succ count ih =>
    refine (congrArg (List.map Prod.snd) (List.filter_cons_of_neg ?_)).trans (ih _)
    simpa using apart

theorem run_concat (conduct : Conduct library) (lines : List (Nat × Line)) (caller : Nat)
    (line : Line) (shared : Shared library) : (shared.run conduct (lines ++ [(caller, line)])).1 =
      (shared.run conduct lines).1 ++
        [(caller, ((shared.run conduct lines).2.serve conduct caller line).1)] := by
  induction lines generalizing shared with
  | nil => rfl
  | cons entry lines ih => exact congrArg (List.cons _) (ih _)

/-- Where there is no room, none can be opened. -/
theorem opening_refused (conduct : Conduct counting) (caller : Nat) {shared : Shared counting}
    (usable : shared.session.Usable) (full : shared.session.connectionTokens.table.size =
      shared.session.connectionTokens.table.capacity) :
    (shared.serve conduct caller opening).1 = .called (.openConnection (some memoryPath)) (.long 0)
      (some (.ofFailure (.refused (.exhausted shared.session.connectionTokens.table.capacity)))) := by
  have unset := usable.connections.unset _ (Nat.lt_irrefl _)
  have told := body_opening conduct shared.session
  rw [(Handle.Population.toToken_refused_iff usable.connections.matched).mpr ⟨unset, full⟩] at told
  exact (called_fst conduct caller shared _).trans (congrArg _ told)

/-- When another has opened as many connections as there is room for, a caller can open none. -/
theorem run_crowded (conduct : Conduct counting) (limit : Nat) :
    told 0 ((empty counting limit).run conduct
        (List.replicate (min limit Handle.maxSlots) (1, opening) ++ [(0, opening)])).1 =
      [.called (.openConnection (some memoryPath)) (.long 0)
        (some (.ofFailure (.refused (.exhausted (min limit Handle.maxSlots)))))] := by
  have usable : (empty counting limit).session.Usable := Session.withCapacity_usable limit
  have room : (empty counting limit).session.connectionTokens.table.size +
      min limit Handle.maxSlots =
        (empty counting limit).session.connectionTokens.table.capacity := Nat.zero_add _
  obtain ⟨usable', full, capacity⟩ := run_crowd conduct 1 _ usable room
  have refused := opening_refused conduct 0 usable' full
  have untold := told_replicate Nat.one_ne_zero conduct (min limit Handle.maxSlots) opening
    (empty counting limit)
  rw [capacity] at refused
  rw [run_concat, told, List.filter_append, List.map_append]
  exact congrArg₂ (fun told exchange => told ++ [exchange]) untold refused

end Shared

end SqliteBridge.Boundary
