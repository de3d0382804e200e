import SqliteBridge.Binding.Catalog
import SqliteBridge.Proofs.Boundary.LiveTokens
import SqliteBridge.Proofs.Handle.Reuse

/-! Arguments that cannot be read. A call reads all of its arguments in the order of its
parameters before it asks anything of the session; the first one that cannot be read ends
it, with an exception and nothing else. A token cannot be read unless a handle has it now. A token
that was given up is given out again after all generations of its slot, and then it can be read. -/
namespace SqliteBridge.Boundary

open Handle (Token Population)
open Handle.Population (Matched)
open Binding (LogicalType Operation)
open Native (Library)

/-- A parameter of a method with the argument that arrives for it. -/
inductive Parameter where
  | connection (raw : Int64)
  | statement (raw : Int64)
  | text (s? : Option String)
  | bytes (bytes? : Option ByteArray)
  /-- A number, which can always be read. -/
  | number (type : LogicalType)

namespace Parameter

/-- The type with which the parameter is declared. -/
def type : Parameter → LogicalType
  | connection _ => .database
  | statement _ => .statement
  | text _ => .string
  | bytes _ => .byteArray
  | number type => type

end Parameter

/-- The parameters of the method in the order in which they are declared. -/
def Call.parameters : Call → List Parameter
  | openConnection path => [.text path]
  | close raw | errorMessage raw | errorCode raw | changes raw | lastInsertedId raw =>
    [.connection raw]
  | prepareStatement raw sql | exec raw sql => [.connection raw, .text sql]
  | step raw | reset raw | finalize raw | clearBindings raw | parameterCount raw
  | columnCount raw => [.statement raw]
  | bindInt raw _ _ => [.statement raw, .number .int, .number .int]
  | bindLong raw _ _ => [.statement raw, .number .int, .number .long]
  | bindDouble raw _ _ => [.statement raw, .number .int, .number .double]
  | bindText raw _ s => [.statement raw, .number .int, .text s]
  | bindBlob raw _ bytes => [.statement raw, .number .int, .bytes bytes]
  | bindNull raw _ | columnName raw _ | columnType raw _ | columnIsNull raw _ | columnInt raw _
  | columnLong raw _ | columnDouble raw _ | columnText raw _ | columnBlob raw _ =>
    [.statement raw, .number .int]
  | errorString _ => [.number .resultCode]
  | version => []

/-- The parameters are those of the operation in the catalog. -/
theorem declared_parameters (call : Call) : ∃ operation ∈ Operation.catalog,
    operation.name = call.name ∧ operation.parameters = call.parameters.map Parameter.type := by
  have listed : (Operation.catalog.any fun operation => operation.name = call.name ∧
      operation.parameters = call.parameters.map Parameter.type) = true := by
    cases call <;> rfl
  simpa using listed

variable {library : Library} {conduct : Conduct library} {session : Session library}
  {environment : Environment} {call : Call} {α : Type}

/-! ### Reading one argument -/

/-- A token that no handle has: it was never given out, or the handles that it was given out to
have given it up. -/
def Dead (population : Population α) (raw : Int64) : Prop :=
  ∀ object, population.reference object ≠ .live ⟨raw⟩

/-- A value that is no token. -/
def IsMalformed (raw : Int64) : Prop := raw ≤ 0 ∨ raw &&& Token.indexMask = 0

/-- The exception for a token that no handle has. -/
def deadToken (raw : Int64) : Exception where
  className := "java/lang/IllegalStateException"
  code? := none
  message := match Token.ofRaw? raw with
    | some token => s!"tried to access stable ref after it is disposed ({token.text})"
    | none => s!"tried to access stable ref after it is disposed (raw token {raw.toInt})"

/-- The exception for a null where there must be a value. -/
def nullArgument (kind : String) : Exception where
  className := "java/lang/IllegalArgumentException"
  code? := none
  message := "Invalid argument: " ++ kind ++ " argument is null"

namespace Parameter

/-- The argument cannot be read. -/
def Unreadable (session : Session library) : Parameter → Prop
  | connection raw => Dead session.connectionTokens raw
  | statement raw => Dead session.statementTokens raw
  | text s? => s? = none
  | bytes bytes? => bytes? = none
  | number _ => False

/-- The exception that tells that the argument cannot be read. -/
def exception? : Parameter → Option Exception
  | connection raw | statement raw => some (deadToken raw)
  | text _ => some (nullArgument "string")
  | bytes _ => some (nullArgument "byte array")
  | number _ => none

end Parameter

/-- How something failed, if it did. -/
def failureOf : Except Failure α → Option Failure
  | .error failure => some failure
  | .ok _ => none

theorem failureOf_eq_some {result : Except Failure α} {failure : Failure} :
    failureOf result = some failure ↔ result = .error failure := by
  cases result <;> simp [failureOf]

/-- How the reading of an argument fails, if it does. -/
def Parameter.failure? (session : Session library) : Parameter → Option Failure
  | connection raw => failureOf (target session.connectionTokens.table raw)
  | statement raw => failureOf (target session.statementTokens.table raw)
  | text s? => failureOf (Call.argument (requiredText s?))
  | bytes bytes? => failureOf (Call.argument (requiredBytes bytes?))
  | number _ => none

section Tokens

variable {population : Population α} {raw : Int64} {failure : Failure}

theorem target_exception {table : Handle.Table α} (failed : target table raw = .error failure) :
    Exception.ofFailure failure = deadToken raw := by
  cases read : Token.ofRaw? raw with
  | none =>
    simp only [target, read] at failed
    cases failed
    simp only [deadToken, read]
    rfl
  | some token =>
    simp only [target, read, Handle.Table.resolve] at failed
    split at failed
    · contradiction
    · cases failed
      simp only [deadToken, read]
      rfl

theorem failureOf_target {table : Handle.Table α} (consistent : table.Consistent) :
    failureOf (target table raw) = none ↔ table.get? ⟨raw⟩ ≠ none := by
  constructor
  · intro read
    cases found : target table raw with
    | ok object =>
      rw [(target_eq_ok_iff consistent).mp found]
      exact nofun
    | error failure =>
      rw [found] at read
      contradiction
  · intro present
    obtain ⟨object, present⟩ := Option.ne_none_iff_exists'.mp present
    rw [(target_eq_ok_iff consistent).mpr present]
    rfl

/-- A token is dead if and only if the table does not have it. -/
theorem dead_iff (matched : Matched population) :
    Dead population raw ↔ population.table.get? ⟨raw⟩ = none := by
  rw [Option.eq_none_iff_forall_ne_some]
  exact forall_congr' fun object => not_congr (matched.get?_iff ⟨raw⟩ object).symm

theorem dead_of_isMalformed (matched : Matched population) (malformed : IsMalformed raw) :
    Dead population raw := by
  intro object live
  have read := Handle.Table.ofRaw?_of_get? matched.consistent
    ((matched.get?_iff ⟨raw⟩ object).mpr live)
  have refused : Token.ofRaw? raw = none := if_pos malformed
  cases refused.symm.trans read

theorem dead_iff_failure (matched : Matched population) :
    Dead population raw ↔ failureOf (target population.table raw) ≠ none := by
  rw [dead_iff matched, ne_eq, failureOf_target matched.consistent, not_not]

theorem dead_iff_unlisted {map : Handle.Table.TokenMap α} (matched : Matched population)
    (reflects : Reflects population map) : Dead population raw ↔ ⟨raw⟩ ∉ map := by
  rw [dead_iff matched, reflects, Finmap.lookup_eq_none]

end Tokens

namespace Parameter

theorem unreadable_iff (matched : session.TokensMatched) (parameter : Parameter) :
    parameter.Unreadable session ↔ parameter.failure? session ≠ none := by
  cases parameter with
  | connection raw => exact dead_iff_failure matched.connections
  | statement raw => exact dead_iff_failure matched.statements
  | text s? | bytes s? => cases s? <;> simp [Unreadable, failure?, Call.argument, requiredText,
      requiredBytes, Except.mapError, failureOf]
  | number _ => simp [Unreadable, failure?]

theorem exception_of_failure? {parameter : Parameter} {failure : Failure}
    (failed : parameter.failure? session = some failure) :
    parameter.exception? = some (.ofFailure failure) := by
  cases parameter with
  | connection raw | statement raw =>
    exact congrArg some (target_exception (failureOf_eq_some.mp failed)).symm
  | text s? | bytes s? =>
    cases s? with
    | some _ => contradiction
    | none =>
      cases failed
      rfl
  | number _ => contradiction

end Parameter

/-- What a call asks for fails like the first of its arguments that cannot be read. -/
theorem failureOf_request (session : Session library) (call : Call) :
    failureOf (call.request session) = call.parameters.findSome? (Parameter.failure? session) := by
  cases call with
  | openConnection path => cases path <;> rfl
  | prepareStatement raw sql | exec raw sql =>
    simp only [Call.request, Call.connection, Call.parameters, List.findSome?, Parameter.failure?]
    cases target session.connectionTokens.table raw <;> cases sql <;> rfl
  | bindText raw _ s | bindBlob raw _ s =>
    simp only [Call.request, Call.statement, Call.parameters, List.findSome?, Parameter.failure?]
    cases target session.statementTokens.table raw <;> cases s <;> rfl
  | close raw | errorMessage raw | errorCode raw | changes raw | lastInsertedId raw =>
    simp only [Call.request, Call.connection, Call.parameters, List.findSome?, Parameter.failure?]
    cases target session.connectionTokens.table raw <;> rfl
  | errorString _ | version => rfl
  | step raw | reset raw | finalize raw | clearBindings raw | parameterCount raw
  | columnCount raw | bindInt raw | bindLong raw | bindDouble raw | bindNull raw | columnName raw
  | columnType raw | columnIsNull raw | columnInt raw | columnLong raw | columnDouble raw
  | columnText raw | columnBlob raw =>
    simp only [Call.request, Call.statement, Call.parameters, List.findSome?, Parameter.failure?]
    cases target session.statementTokens.table raw <;> rfl

/-! ### Calls -/

/-- The first parameter whose argument cannot be read, with the exception that tells so. -/
def FirstUnreadable (session : Session library) (call : Call) (exception : Exception) : Prop :=
  ∃ before parameter after, call.parameters = before ++ parameter :: after ∧
    (∀ earlier ∈ before, ¬ earlier.Unreadable session) ∧ parameter.Unreadable session ∧
    parameter.exception? = some exception

/-- A call without effect. Nothing is asked of the session, all of which is as it was: the library
and the record of its calls, the connections, their statements, the callbacks and both tables of
tokens. -/
structure Inert (conduct : Conduct library) (environment : Environment)
    (session : Session library) (call : Call) : Prop where
  declared : ∃ operation ∈ Operation.catalog,
    operation.name = call.name ∧ operation.parameters = call.parameters.map Parameter.type
  idle : ∀ request, call.request session ≠ .ok request
  kept : (call.run conduct environment session).2.2 = session
  returned : (call.run conduct environment session).1 = .default call.result
  pending : ∃ exception, FirstUnreadable session call exception ∧
    (call.run conduct environment session).2.1.pending? =
      some (environment.pending?.getD exception)

/-- If an argument cannot be read, the call fails like the first such argument. -/
theorem request_of_unreadable (matched : session.TokensMatched)
    (unreadable : ∃ parameter ∈ call.parameters, parameter.Unreadable session) :
    ∃ failure, call.request session = .error failure ∧
      FirstUnreadable session call (.ofFailure failure) := by
  cases failed : call.parameters.findSome? (Parameter.failure? session) with
  | none =>
    obtain ⟨parameter, listed, unreadable⟩ := unreadable
    exact absurd (List.findSome?_eq_none_iff.mp failed parameter listed)
      ((parameter.unreadable_iff matched).mp unreadable)
  | some failure =>
    refine ⟨failure, failureOf_eq_some.mp (failureOf_request session call ▸ failed), ?_⟩
    obtain ⟨before, parameter, after, split, unread, readable⟩ :=
      List.findSome?_eq_some_iff.mp failed
    refine ⟨before, parameter, after, split, ?_, ?_, Parameter.exception_of_failure? unread⟩
    · intro earlier listed unreadable
      exact (earlier.unreadable_iff matched).mp unreadable (readable earlier listed)
    · exact (parameter.unreadable_iff matched).mpr (by rw [unread]; exact nofun)

/-- What a session does with calls that have an argument that cannot be read, whatever their other
arguments are and whether or not an exception is pending. -/
structure Refuses (session : Session library) : Prop where
  malformed : ∀ raw, IsMalformed raw →
    Dead session.connectionTokens raw ∧ Dead session.statementTokens raw
  inert : ∀ (conduct : Conduct library) (environment : Environment) (call : Call),
    (∃ parameter ∈ call.parameters, parameter.Unreadable session) →
    Inert conduct environment session call

theorem refuses_of_tokensMatched (matched : session.TokensMatched) : Refuses session where
  malformed _ malformed := ⟨dead_of_isMalformed matched.connections malformed,
    dead_of_isMalformed matched.statements malformed⟩
  inert conduct environment call unreadable := by
    obtain ⟨failure, failed, first⟩ := request_of_unreadable matched unreadable
    have ended : call.run conduct environment session =
        (.default call.result, environment.raise (.ofFailure failure), session) := by
      rw [Call.run, Call.body_refused conduct failed]
      rfl
    refine ⟨declared_parameters call, fun request asked => ?_, ?_, ?_, .ofFailure failure, first, ?_⟩
    · rw [failed] at asked
      contradiction
    · rw [ended]
    · rw [ended]
    · rw [ended]
      rcases environment with ⟨_ | _⟩ <;> rfl

/-- The dead tokens after a run of calls are those that the ledger does not have: no call returned
them, or they were closed or finalized since. -/
structure DeadAreUnlisted (session : Session library) (ledger : Ledger) : Prop where
  connections : ∀ raw, Dead session.connectionTokens raw ↔ ⟨raw⟩ ∉ ledger.connections
  statements : ∀ raw, Dead session.statementTokens raw ↔ ⟨raw⟩ ∉ ledger.statements

/-- In every state that can be reached, a call with an argument that cannot be read has no
effect; and after a run of calls a token can be read exactly when it was returned and not given up
since. -/
theorem unreadable_call_inert (library : Library) :
    (∀ session : Session library, session.IsReachable → Refuses session) ∧
    ∀ (conduct : Conduct library) (limit : Nat) (events : List (Environment × Call)),
      let state := events.foldl (serve conduct) (.withCapacity library limit, .empty)
      Refuses state.1 ∧ DeadAreUnlisted state.1 state.2 := by
  refine ⟨fun session reachable => refuses_of_tokensMatched reachable.tokensMatched,
    fun conduct limit events => ?_⟩
  have sound := (withCapacity_sound limit).run conduct events
  have connections := sound.usable.connections.matched
  have statements := sound.usable.statements.matched
  exact ⟨refuses_of_tokensMatched ⟨connections, statements⟩,
    fun _ => dead_iff_unlisted connections sound.connections,
    fun _ => dead_iff_unlisted statements sound.statements⟩

/-- A library in which every call succeeds. -/
def obliging : Library := Native.scripted fun _ call => call.uneventful

/-- A connection is opened, and closed by the token that its slot gives in a generation. -/
def round (generation : Nat) : List (Environment × Call) :=
  [(.empty, .openConnection (some "a.db")), (.empty, .close (Token.pack 0 generation).raw)]

/-- The slot of a closed connection is taken again. A call with the token that was given up and with
no text fails for the token, which is its first parameter. -/
theorem unreadable_call_inert_closed :
    let conduct : Conduct obliging := .byRules []
    let raw := (Token.pack 0 1).raw
    let events := round 1 ++ [(.empty, .openConnection (some "b.db"))]
    let session := (events.foldl (serve conduct) (.withCapacity obliging 1, .empty)).1
    Inert conduct .empty session (.exec raw none) ∧
      ((Call.exec raw none).run conduct .empty session).2.1.pending? = some (deadToken raw) ∧
      session.isClosed 1 = false := by
  intro conduct raw events
  have refuses := (unreadable_call_inert obliging).2 conduct 1 events
  have unlisted : (⟨raw⟩ : Token) ∉
      (events.foldl (serve conduct) (.withCapacity obliging 1, .empty)).2.connections := by
    decide +kernel
  exact ⟨refuses.1.inert conduct .empty (.exec raw none) ⟨.connection raw, List.mem_cons_self,
    (refuses.2.connections raw).mpr unlisted⟩, by decide +kernel, by decide +kernel⟩

/-! ### A token that comes round -/

section Rounds

variable {conduct : Conduct obliging} {session : Session obliging} {ledger : Ledger}
  {generation : Nat}

open Handle.Table (vacant cycle)

/-- A session without tokens of connections, whose only slot for them comes to a generation. -/
structure IsVacant (session : Session obliging) (generation : Nat) : Prop where
  usable : session.Usable
  absent (token : Token) : session.connectionTokens.table.get? token = none
  creates (id : Nat) : session.connectionTokens.table.create id =
    (.ok (.pack 0 generation), ⟨1, #[⟨generation, some id⟩], [], 1⟩)

theorem isVacant_withCapacity : IsVacant (.withCapacity obliging 1) (cycle 0) :=
  ⟨Session.withCapacity_usable 1, Handle.Table.get?_withCapacity 1, fun _ => rfl⟩

theorem isVacant_of_table (usable : session.Usable)
    (table : session.connectionTokens.table = vacant generation) :
    IsVacant session generation := by
  refine ⟨usable, fun token => ?_, fun id => ?_⟩
  · rw [table, Handle.Table.get?]
    cases index : token.index with
    | zero => exact ite_self none
    | succ => rfl
  · rw [table]
    rfl

theorem IsVacant.open (isVacant : IsVacant session generation) (conduct : Conduct obliging) :
    let opened := (Call.openConnection (some "a.db")).body conduct session
    opened.1 = .ok (.long (Token.pack 0 generation).raw) ∧ opened.2.Usable ∧
      opened.2.connectionTokens.table =
        ⟨1, #[⟨generation, some session.connections.length⟩], [], 1⟩ ∧
      opened.2.connectionTokens.reference session.connections.length =
        .live (.pack 0 generation) := by
  intro opened
  have unset := isVacant.usable.connections.unset session.connections.length (Nat.lt_irrefl _)
  have taken : session.connectionTokens.toToken session.connections.length =
      (.ok (.pack 0 generation), { session.connectionTokens with
        table := ⟨1, #[⟨generation, some session.connections.length⟩], [], 1⟩ }.setReference
          session.connections.length (.live (.pack 0 generation))) := by
    simp only [Population.toToken, Handle.Reference.adopt, unset, Population.register,
      isVacant.creates]
  have sent : opened.1 = (session.connectionTokens.toToken
      session.connections.length).1.map fun token => .long token.raw := rfl
  obtain ⟨usable, ⟨failure, failed, -⟩ | ⟨token, made, taken', -, -⟩⟩ :=
    Call.body_openConnection isVacant.usable conduct (some "a.db")
  · rw [taken] at sent
    cases failed.symm.trans sent
  · rw [taken] at sent
    have after := congrArg Prod.snd (taken'.symm.trans taken)
    refine ⟨sent, usable, congrArg Population.table after, ?_⟩
    rw [show opened.2.connectionTokens = _ from after]
    exact if_pos rfl

theorem IsVacant.round {count : Nat} (isVacant : IsVacant session (cycle count))
    (conduct : Conduct obliging) (ledger : Ledger) :
    IsVacant ((round (cycle count)).foldl (serve conduct) (session, ledger)).1
      (cycle (count + 1)) := by
  obtain ⟨-, usable, table, live⟩ := isVacant.open conduct
  obtain ⟨usable', ⟨failure, unknown, -⟩ | ⟨id, found, tokens, -⟩⟩ :=
    Call.body_close usable conduct (Token.pack 0 (cycle count)).raw
  · have known := (usable.connections.matched.get?_iff _ _).mpr live
    cases unknown.symm.trans ((target_eq_ok_iff usable.connections.matched.consistent).mpr known)
  · have same := Option.some.inj (((target_eq_ok_iff usable.connections.matched.consistent).mp
      found).symm.trans ((usable.connections.matched.get?_iff _ _).mpr live))
    refine isVacant_of_table usable' ((congrArg Population.table tokens).trans ?_)
    have inRange : 0 < Handle.maxSlots := by decide
    have index := Token.index_pack inRange (Handle.Table.cycle_le count)
    have generation := Token.generation_pack inRange (Handle.Table.cycle_le count)
    subst same
    simp [Population.disposeToken, Handle.Reference.dispose, Handle.Reference.token?, live, table,
      Population.setReference, Handle.Table.dispose, index, generation, vacant,
      Handle.Table.nextGeneration_cycle]

/-- Rounds in all generations from one on. -/
def rounds (first count : Nat) : List (Environment × Call) :=
  (List.range count).flatMap fun more => round (cycle (first + more))

theorem IsVacant.rounds {state : Session obliging × Ledger} {first : Nat}
    (isVacant : IsVacant state.1 (cycle first)) (conduct : Conduct obliging) (count : Nat) :
    IsVacant ((rounds first count).foldl (serve conduct) state).1 (cycle (first + count)) := by
  induction count with
  | zero => exact isVacant
  | succ count ih =>
    rw [Boundary.rounds, List.range_succ, List.flatMap_append, ← Boundary.rounds,
      List.foldl_append, List.flatMap_singleton]
    exact ih.round conduct _

/-- With the token of an open connection its changes are told. -/
theorem run_changes {id : Nat} {raw : Int64} (conduct : Conduct obliging)
    (found : target session.connectionTokens.table raw = .ok id)
    (isOpen : session.isClosed id = false) :
    (Call.changes raw).request session = .ok (.changes id) ∧
      ((Call.changes raw).run conduct .empty session).2.1 = .empty := by
  have connection : Call.connection session raw = .ok id := found
  have asked : (Call.changes raw).request session = .ok (.changes id) := by
    simp only [Call.request, connection]
    rfl
  obtain ⟨_, -, -, passed⟩ := Session.whileOpen_of_isOpen isOpen
  have replied : (session.perform conduct (.changes id)).1 =
      .ok (.int (session.native conduct (.changes id)).1) := by
    rw [Session.perform, Session.changes, passed]
    rfl
  refine ⟨asked, ?_⟩
  rw [Call.run, Call.body_replied conduct asked replied]
  rfl

/-- A connection is opened next and gets a token, with which a call is then carried out. -/
structure GivesOut (conduct : Conduct obliging) (session : Session obliging) (token : Int64) : Prop
    where
  returned : ((Call.openConnection (some "a.db")).run conduct .empty session).1 = .long token
  asked : ∃ id, (Call.changes token).request
    ((Call.openConnection (some "a.db")).run conduct .empty session).2.2 = .ok (.changes id)
  clear : ((Call.changes token).run conduct .empty
    ((Call.openConnection (some "a.db")).run conduct .empty session).2.2).2.1 = .empty

theorem IsVacant.givesOut (isVacant : IsVacant session generation) (conduct : Conduct obliging) :
    GivesOut conduct session (Token.pack 0 generation).raw := by
  obtain ⟨made, usable, -, live⟩ := isVacant.open conduct
  have known := (usable.connections.matched.get?_iff _ _).mpr live
  have isOpen := usable.connections.usable _ _ live
  obtain ⟨asked, clear⟩ := run_changes conduct
    ((target_eq_ok_iff usable.connections.matched.consistent).mpr known) isOpen
  have ran : (Call.openConnection (some "a.db")).run conduct .empty session =
      (.long (Token.pack 0 generation).raw, .empty,
        ((Call.openConnection (some "a.db")).body conduct session).2) := by
    have ended : (Call.openConnection (some "a.db")).body conduct session =
        (.ok (.long (Token.pack 0 generation).raw),
          ((Call.openConnection (some "a.db")).body conduct session).2) := Prod.ext made rfl
    rw [Call.run, ended]
    rfl
  constructor
  · rw [ran]
  · rw [ran]
    exact ⟨_, asked⟩
  · rw [ran]
    exact clear

end Rounds

/-- A connection is opened and closed, and so are others until all generations of its slot are used
up. The next one gets its token, with which calls are then carried out. -/
theorem disposed_token_accepted :
    let conduct : Conduct obliging := .byRules []
    Dead ((round 1).foldl (serve conduct) (.withCapacity obliging 1, .empty)).1.connectionTokens
      (Token.pack 0 1).raw ∧
    GivesOut conduct ((rounds 1 (Handle.maxGeneration - 1)).foldl (serve conduct)
      ((round 1).foldl (serve conduct) (.withCapacity obliging 1, .empty))).1
      (Token.pack 0 1).raw := by
  intro conduct
  have first := isVacant_withCapacity.round conduct .empty
  have last := first.rounds conduct (Handle.maxGeneration - 1)
  have again : Handle.Table.cycle (1 + (Handle.maxGeneration - 1)) = 1 := by decide
  rw [again] at last
  exact ⟨(dead_iff first.usable.connections.matched).mpr (first.absent _), last.givesOut conduct⟩

end SqliteBridge.Boundary
