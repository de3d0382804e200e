import SqliteBridge.Proofs.Boundary.Bodies
import SqliteBridge.Proofs.Handle.FiniteMap

/-! The life of a token seen from the other side. A ledger is kept beside a run of calls: it
gains a token when a call that opens or prepares returns one, and loses it when the token is
closed or finalized. In every state of the run the tables hold exactly the tokens of the
ledger, and behind each of them is a handle that can be used. -/
namespace SqliteBridge.Boundary

open Handle (Table Token Population)
open Handle.Population (Adopted Retired Matched)
open Native (Library)
open Session (ClosesCleanly SameTokens Throughout)

variable {library : Library} {conduct : Conduct library}

/-- What the call returns if it leaves no exception. -/
def Call.returned? (conduct : Conduct library) (call : Call) (session : Session library) :
    Option NativeValue :=
  match call.run conduct .empty session with
  | (value, ⟨none⟩, _) => some value
  | (_, ⟨some _⟩, _) => none

/-- The tokens that are in use on the other side, with what they stand for. -/
structure Ledger where
  connections : Table.TokenMap Nat
  statements : Table.TokenMap StatementId

namespace Ledger

def empty : Ledger := ⟨∅, ∅⟩

/-- The statement that would be made next on a connection. -/
def nextStatement (session : Session library) (id : Nat) : StatementId :=
  ⟨id, ((session.connection? id).map fun connection => connection.statements.length).getD 0⟩

/-- The ledger after a call. -/
def record (conduct : Conduct library) (ledger : Ledger) (session : Session library) (call : Call) :
    Ledger :=
  match call with
  | .openConnection _ =>
    match call.returned? conduct session with
    | some (.long raw) =>
      { ledger with connections := ledger.connections.insert ⟨raw⟩ session.connections.length }
    | _ => ledger
  | .prepareStatement connection _ =>
    match call.returned? conduct session, ledger.connections.lookup ⟨connection⟩ with
    | some (.long raw), some id =>
      { ledger with statements := ledger.statements.insert ⟨raw⟩ (nextStatement session id) }
    | _, _ => ledger
  | .close raw => { ledger with connections := ledger.connections.erase ⟨raw⟩ }
  | .finalize raw => { ledger with statements := ledger.statements.erase ⟨raw⟩ }
  | _ => ledger

end Ledger

/-- One call in a run. Whatever exception is pending, it makes no difference. -/
def serve (conduct : Conduct library) (state : Session library × Ledger)
    (event : Environment × Call) : Session library × Ledger :=
  ((event.2.run conduct event.1 state.1).2.2, state.2.record conduct state.1 event.2)

variable {α : Type} [DecidableEq α] {population population' : Population α}
  {map : Table.TokenMap α} {object : α} {token : Token} {session : Session library}
  {ledger : Ledger} {call : Call}

theorem Call.returned?_eq (conduct : Conduct library) (call : Call) (session : Session library) :
    call.returned? conduct session = (call.body conduct session).1.toOption := by
  unfold returned? run
  dsimp only
  cases (call.body conduct session).1 <;> rfl

/-! ### The tables and the ledger -/

def Reflects (population : Population α) (map : Table.TokenMap α) : Prop :=
  ∀ token, population.table.get? token = map.lookup token

omit [DecidableEq α] in
theorem reflects_withCapacity (limit : Nat) :
    Reflects (.withCapacity limit : Population α) ∅ := by
  intro token
  rw [Finmap.lookup_empty]
  exact Table.get?_withCapacity limit token

theorem Reflects.adopted (reflects : Reflects population map) (matched : Matched population)
    (adopted : Adopted population object token population') :
    Reflects population' (map.insert token object) := by
  intro other
  rw [adopted.get?_eq matched]
  by_cases same : other = token
  · rw [if_pos same, same, Finmap.lookup_insert]
  · rw [if_neg same, Finmap.lookup_insert_of_ne _ same, reflects]

theorem Reflects.retired (reflects : Reflects population map) (matched : Matched population)
    (found : population.table.get? token = some object)
    (retired : Retired population object population') :
    Reflects population' (map.erase token) := by
  intro other
  rw [retired.get?_eq matched ((matched.get?_iff token object).mp found)]
  by_cases same : other = token
  · rw [if_pos same, same, Finmap.lookup_erase]
  · rw [if_neg same, Finmap.lookup_erase_ne same, reflects]

omit [DecidableEq α] in
theorem Reflects.erase_absent (reflects : Reflects population map)
    (absent : population.table.get? token = none) : Reflects population (map.erase token) := by
  intro other
  by_cases same : other = token
  · rw [same, Finmap.lookup_erase, absent]
  · rw [Finmap.lookup_erase_ne same, reflects]

/-- What a run keeps. -/
structure Sound (session : Session library) (ledger : Ledger) : Prop where
  usable : session.Usable
  connections : Reflects session.connectionTokens ledger.connections
  statements : Reflects session.statementTokens ledger.statements

theorem withCapacity_sound (limit : Nat) : Sound (Session.withCapacity library limit) .empty where
  usable := Session.withCapacity_usable limit
  connections := reflects_withCapacity limit
  statements := reflects_withCapacity limit

theorem Sound.of_same {session' : Session library} (sound : Sound session ledger) (usable : session'.Usable)
    (same : SameTokens session session') : Sound session' ledger where
  usable := usable
  connections := by rw [same.connections]; exact sound.connections
  statements := by rw [same.statements]; exact sound.statements

omit [DecidableEq α] in
theorem absent_of_target {table : Table α} {raw : Int64} {failure : Failure}
    (consistent : table.Consistent) (unknown : target table raw = .error failure) :
    table.get? ⟨raw⟩ = none := by
  cases found : table.get? ⟨raw⟩ with
  | none => rfl
  | some object =>
    rw [(target_eq_ok_iff consistent).mpr found] at unknown
    contradiction

theorem Ledger.nextStatement_eq {id : Nat} {connection : ConnectionHandle}
    (found : session.connection? id = some connection) :
    nextStatement session id = ⟨id, connection.statements.length⟩ := by
  rw [nextStatement, found]
  rfl

theorem Ledger.record_plain (plain : call.IsPlain) : ledger.record conduct session call = ledger := by
  cases call with
  | openConnection _ | close _ | prepareStatement _ _ | finalize _ => contradiction
  | _ => rfl

theorem Sound.body_plain (sound : Sound session ledger) (plain : call.IsPlain) :
    Sound (call.body conduct session).2 (ledger.record conduct session call) := by
  obtain ⟨usable, same⟩ := Call.body_plain sound.usable conduct plain
  rw [Ledger.record_plain plain]
  exact sound.of_same usable same

/-- One call. -/
theorem Sound.body (sound : Sound session ledger) (call : Call) :
    Sound (call.body conduct session).2 (ledger.record conduct session call) := by
  have connections := sound.usable.connections.matched
  have statements := sound.usable.statements.matched
  cases call with
  | openConnection path? =>
    obtain ⟨usable, ⟨_, failed, same⟩ | ⟨token, ended, -, adopted, same⟩⟩ :=
      Call.body_openConnection sound.usable conduct path?
    · unfold Ledger.record
      rw [Call.returned?_eq, failed]
      exact sound.of_same usable same
    · unfold Ledger.record
      rw [Call.returned?_eq, ended]
      exact ⟨usable, sound.connections.adopted connections adopted, same ▸ sound.statements⟩
  | prepareStatement raw sql? =>
    obtain ⟨usable, ⟨_, failed, same⟩ | ⟨id, connection, token, found, known, ended, adopted, same⟩⟩ :=
      Call.body_prepareStatement sound.usable conduct raw sql?
    · unfold Ledger.record
      rw [Call.returned?_eq, failed]
      exact sound.of_same usable same
    · have listed := (target_eq_ok_iff connections.consistent).mp found
      rw [sound.connections] at listed
      unfold Ledger.record
      dsimp only
      rw [Call.returned?_eq, ended, listed]
      rw [← Ledger.nextStatement_eq known] at adopted
      exact ⟨usable, same ▸ sound.connections, sound.statements.adopted statements adopted⟩
  | close raw =>
    obtain ⟨usable, ⟨_, unknown, same⟩ | ⟨id, found, retired, same⟩⟩ :=
      Call.body_close sound.usable conduct raw
    · have absent := absent_of_target connections.consistent unknown
      rw [same]
      exact ⟨sound.usable, sound.connections.erase_absent absent, sound.statements⟩
    · have known := (target_eq_ok_iff connections.consistent).mp found
      refine ⟨usable, ?_, ?_⟩
      · rw [retired]
        exact sound.connections.retired connections known
          (Population.disposeToken_retired connections id)
      · rw [same]
        exact sound.statements
  | finalize raw =>
    obtain ⟨usable, ⟨_, unknown, same⟩ | ⟨id, found, retired, same⟩⟩ :=
      Call.body_finalize sound.usable conduct raw
    · have absent := absent_of_target statements.consistent unknown
      rw [same]
      exact ⟨sound.usable, sound.connections, sound.statements.erase_absent absent⟩
    · have known := (target_eq_ok_iff statements.consistent).mp found
      refine ⟨usable, ?_, ?_⟩
      · rw [same]
        exact sound.connections
      · rw [retired]
        exact sound.statements.retired statements known
          (Population.disposeToken_retired statements id)
  | _ => exact sound.body_plain trivial

theorem Sound.run (conduct : Conduct library) (sound : Sound session ledger)
    (events : List (Environment × Call)) :
    Sound (events.foldl (serve conduct) (session, ledger)).1
      (events.foldl (serve conduct) (session, ledger)).2 := by
  induction events generalizing session ledger with
  | nil => exact sound
  | cons event rest ih => exact ih (sound.body event.2)

/-! ### What holds in every state of a run -/

/-- The tables hold the tokens of the ledger, each of them in the keeping of a handle that
can be used. -/
structure LiveTokens (session : Session library) (ledger : Ledger) : Prop where
  connection : ∀ token id, session.connectionTokens.table.get? token = some id →
    session.connectionTokens.reference id = .live token ∧ session.isClosed id = false
  statement : ∀ token id, session.statementTokens.table.get? token = some id →
    session.statementTokens.reference id = .live token ∧ session.isFinalized id = false
  connections : ∀ token,
    session.connectionTokens.table.get? token = ledger.connections.lookup token
  statements : ∀ token, session.statementTokens.table.get? token = ledger.statements.lookup token

/-- How the next call can end. If connections are closed without an error, it is told that
something has ended only when it names a statement whose connection is closed, never that a handle
has ended already; and a token that it returns is positive, was not in use and stands for the new
handle. -/
structure Outcome (conduct : Conduct library) (session : Session library) (ledger : Ledger)
    (call : Call) : Prop where
  misuse : Throughout ClosesCleanly (call.body conduct session).2.log →
    ∀ message ∈ Session.endTexts,
      (call.body conduct session).1 = .error (.refused (.misuse message)) →
      message = "connection is closed" ∧ ∃ raw id, call.statementToken? = some raw ∧
        ledger.statements.lookup ⟨raw⟩ = some id ∧ session.isClosed id.connection = true
  opened : ∀ path? raw, call = .openConnection path? →
    call.returned? conduct session = some (.long raw) →
    let after := (call.body conduct session).2
    let id := session.connections.length
    0 < raw ∧ ⟨raw⟩ ∉ ledger.connections ∧ after.isClosed id = false ∧
      target after.connectionTokens.table raw = .ok id
  prepared : ∀ connection sql? raw, call = .prepareStatement connection sql? →
    call.returned? conduct session = some (.long raw) → ∃ id,
      ledger.connections.lookup ⟨connection⟩ = some id ∧
      let after := (call.body conduct session).2
      let statement := Ledger.nextStatement session id
      0 < raw ∧ ⟨raw⟩ ∉ ledger.statements ∧ after.isFinalized statement = false ∧
        target after.statementTokens.table raw = .ok statement

theorem Sound.liveTokens (sound : Sound session ledger) : LiveTokens session ledger where
  connection token id found :=
    ⟨(sound.usable.connections.matched.get?_iff token id).mp found,
      sound.usable.connections.of_get? found⟩
  statement token id found :=
    ⟨(sound.usable.statements.matched.get?_iff token id).mp found,
      sound.usable.statements.of_get? found⟩
  connections := sound.connections
  statements := sound.statements

/-- A request that is refused as misuse names a statement whose connection is closed. -/
theorem Sound.perform_misuse {request : Session.Request} {message : String}
    (sound : Sound session ledger) (asked : call.request session = .ok request)
    (closes : ∀ id, request = .close id →
      Throughout ClosesCleanly (session.close conduct id).2.log)
    (listed : message ∈ Session.endTexts)
    (refused : (session.perform conduct request).1 = .error (.misuse message)) :
    ∃ id, request.target = .statement id ∧ message = "connection is closed" ∧
      session.isClosed id.connection = true := by
  have asks := Call.request_asks asked
  cases tells : request.tellsText with
  | true =>
    have misused := Session.perform_misuse tells refused
    cases target : request.target with
    | nothing =>
      rw [target] at misused
      contradiction
    | connection id =>
      rw [target] at misused asks
      obtain ⟨raw, -, found⟩ := asks
      have isOpen := sound.usable.connections.of_get?
        ((target_eq_ok_iff sound.usable.connections.matched.consistent).mp found)
      exact absurd misused (Bool.eq_false_iff.mp isOpen)
    | statement id =>
      rw [target] at misused asks
      obtain ⟨raw, -, found⟩ := asks
      have isLive := sound.usable.statements.of_get?
        ((target_eq_ok_iff sound.usable.statements.matched.consistent).mp found)
      rcases misused with isFinalized | ⟨same, isClosed⟩
      · exact absurd isFinalized (Bool.eq_false_iff.mp isLive)
      · exact ⟨id, rfl, same, isClosed⟩
  | false =>
    cases request with
    | openWith config =>
      exact absurd listed (Session.openWith_misuse (Session.replying_eq_error refused))
    | close id =>
      obtain ⟨raw, -, found⟩ := asks
      have isOpen := sound.usable.connections.of_get?
        ((target_eq_ok_iff sound.usable.connections.matched.consistent).mp found)
      have closed := Session.close_eq_ok sound.usable.unattended isOpen (closes id rfl)
      rw [Session.replying_eq_error refused] at closed
      contradiction
    | setAuthorizer id callback? =>
      exact absurd rfl (Call.request_ne_setAuthorizer asked id callback?)
    | _ => contradiction

/-- A token that was given out is positive, was not in use and stands for its handle. -/
theorem target_of_adopted (matched : Matched population)
    (adopted : Adopted population object token population') :
    0 < token.raw ∧ target population'.table token.raw = .ok object := by
  have found : population'.table.get? token = some object := by
    rw [adopted.get?_eq matched, if_pos rfl]
  refine ⟨?_, (target_eq_ok_iff adopted.matched.consistent).mpr found⟩
  have read := Table.ofRaw?_of_get? adopted.matched.consistent found
  exact (Token.ofRaw?_eq_some_iff.mp read).2.1

theorem Sound.outcome (sound : Sound session ledger) (conduct : Conduct library) (call : Call) :
    Outcome conduct session ledger call where
  misuse closes message listed refused := by
    cases asked : call.request session with
    | error failure =>
      rw [Call.body_refused conduct asked] at refused
      obtain ⟨_, rfl | rfl⟩ := Call.request_error asked <;> cases refused
    | ok request =>
      cases performed : (session.perform conduct request).1 with
      | error error =>
        rw [Call.body_failed conduct asked performed] at refused closes
        cases refused
        have closes : ∀ id, request = .close id →
            Throughout ClosesCleanly (session.close conduct id).2.log := by
          rintro id rfl
          have isClosed := Session.isClosed_close sound.usable.unattended conduct id
          have settled : (session.close conduct id).2.settleConnection conduct id =
              (session.close conduct id).2 := by
            rw [Session.settleConnection, isClosed, Bool.or_true, if_pos rfl]
          exact settled ▸ closes
        obtain ⟨id, target, same, isClosed⟩ :=
          sound.perform_misuse asked closes listed performed
        have asks := Call.request_asks asked
        rw [target] at asks
        obtain ⟨raw, passed, found⟩ := asks
        have known := (target_eq_ok_iff sound.usable.statements.matched.consistent).mp found
        rw [sound.statements] at known
        exact ⟨same, raw, id, passed, known, isClosed⟩
      | ok reply =>
        rw [Call.body_replied conduct asked performed] at refused
        have after := sound.usable.perform conduct (Call.request_ne_setAuthorizer asked)
        exact absurd refused (send_ne_misuse ⟨after.connections.matched, after.statements.matched⟩)
  opened path? raw same ended := by
    subst same
    have matched := sound.usable.connections.matched
    rw [Call.returned?_eq] at ended
    obtain ⟨usable, ⟨_, failed, _⟩ | ⟨token, made, -, adopted, _⟩⟩ :=
      Call.body_openConnection sound.usable conduct path?
    · rw [failed] at ended
      contradiction
    · rw [made] at ended
      cases ended
      obtain ⟨positive, found⟩ := target_of_adopted matched adopted
      have fresh := adopted.fresh
      rw [sound.connections] at fresh
      exact ⟨positive, Finmap.lookup_eq_none.mp fresh, usable.connections.of_get?
        ((target_eq_ok_iff adopted.matched.consistent).mp found), found⟩
  prepared connection sql? raw same ended := by
    subst same
    have matched := sound.usable.statements.matched
    rw [Call.returned?_eq] at ended
    obtain ⟨usable, ⟨_, failed, _⟩ | ⟨id, handle, token, target, known, made, adopted, _⟩⟩ :=
      Call.body_prepareStatement sound.usable conduct connection sql?
    · rw [failed] at ended
      contradiction
    · rw [made] at ended
      cases ended
      rw [← Ledger.nextStatement_eq known] at adopted
      obtain ⟨positive, found⟩ := target_of_adopted matched adopted
      have listed := (target_eq_ok_iff sound.usable.connections.matched.consistent).mp target
      rw [sound.connections] at listed
      have fresh := adopted.fresh
      rw [sound.statements] at fresh
      exact ⟨id, listed, positive, Finmap.lookup_eq_none.mp fresh, usable.statements.of_get?
        ((target_eq_ok_iff adopted.matched.consistent).mp found), found⟩

/-- Whatever is called, with whatever arguments, from empty tables on. -/
theorem live_tokens_usable (conduct : Conduct library) (limit : Nat)
    (events : List (Environment × Call)) :
    let state := events.foldl (serve conduct) (.withCapacity library limit, .empty)
    LiveTokens state.1 state.2 ∧ ∀ call, Outcome conduct state.1 state.2 call := by
  have sound := (withCapacity_sound limit).run conduct events
  exact ⟨sound.liveTokens, sound.outcome conduct⟩

/-- A statement outlives its connection: it is told that the connection is closed, and it can still
be finalized. -/
theorem live_tokens_usable_closed :
    let library := Native.scripted fun _ call => call.uneventful
    let conduct : Conduct library := .byRules []
    let events := [(Environment.empty, Call.openConnection (some "a.db")),
      (.empty, .prepareStatement 4294967297 (some "SELECT 1")), (.empty, .close 4294967297)]
    let state := events.foldl (serve conduct) (.withCapacity library 1, .empty)
    (LiveTokens state.1 state.2 ∧ ∀ call, Outcome conduct state.1 state.2 call) ∧
      Throughout ClosesCleanly ((Call.step 4294967297).body conduct state.1).2.log ∧
      ((Call.step 4294967297).body conduct state.1).1 =
        .error (.refused (.misuse "connection is closed")) ∧
      ((Call.finalize 4294967297).body conduct state.1).1 = .ok .void := by
  intro library conduct events state
  exact ⟨live_tokens_usable conduct 1 events, by decide +kernel, by decide +kernel,
    by decide +kernel⟩

end SqliteBridge.Boundary
