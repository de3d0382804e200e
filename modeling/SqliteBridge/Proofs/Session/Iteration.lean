import SqliteBridge.Native.Scripted
import SqliteBridge.Proofs.Session.Steps
import SqliteBridge.Session.Rows

/-! Rows over a whole iteration. Whatever happens between one move and the next, the rows tell of
each step of the statement once: of a row while there is one, and then of the end or of an error.
From there on a move is no step any more, so it is never the iteration that starts the statement
over. -/
namespace SqliteBridge

open Native (Library)

/-- What comes before a step: anything that callers do in the meantime, and then the callbacks that
are there when the statement runs. -/
structure Meanwhile (library : Library) where
  change : Session library → Session library
  conduct : Conduct library

/-- Moves to the next row again and again. -/
def Rows.walk {library : Library} (rows : Rows) (session : Session library) :
    List (Meanwhile library) → List (Option (Except Error Unit)) × Rows × Session library
  | [] => ([], rows, session)
  | meanwhile :: rest =>
    let (item, rows, session) := rows.next meanwhile.conduct (meanwhile.change session)
    let (items, rows, session) := rows.walk session rest
    (item :: items, rows, session)

namespace Session

variable {library : Library} {conduct : Conduct library} {session : Session library}
  {id : StatementId}

/-- Steps a statement again and again. -/
def stepping (session : Session library) (id : StatementId) :
    List (Meanwhile library) → List (Except Error ResultCode) × Session library
  | [] => ([], session)
  | meanwhile :: rest =>
    let (reply, session) := (meanwhile.change session).step meanwhile.conduct id
    let (replies, session) := session.stepping id rest
    (reply :: replies, session)

/-- What callers do while no step is made. -/
def changing (session : Session library) (between : List (Meanwhile library)) : Session library :=
  between.foldl (fun session meanwhile => meanwhile.change session) session

/-- The reply to a step that comes to a row. -/
def IsRow (reply : Except Error ResultCode) : Prop :=
  ∃ code : ResultCode, reply = .ok code ∧ code.primary = .row

/-- A step that does not come to a row, and what the rows tell of it. A step that the guards of the
statement refuse leaves the statement where it was. -/
inductive EndsWith (id : StatementId) (session : Session library) :
    Except Error ResultCode × Session library → Option (Except Error Unit) → Prop
  | done {code : ResultCode} {after : Session library} (done : code.primary = .done)
      (state : after.state? id = some .done) : EndsWith id session (.ok code, after) none
  | failed {error : Error} {after : Session library} (state : after.state? id = some .error) :
      EndsWith id session (.error error, after) (some (.error error))
  | refused (message : String) (guarded : ¬session.CanRun id) :
      EndsWith id session (.error (.misuse message), session) (some (.error (.misuse message)))

/-- What comes of moving through the rows of a statement. All the steps that are made are told:
one row for each step that comes to one, in order, and the end of the last step. -/
inductive Walked (id : StatementId) (session : Session library) :
    List (Meanwhile library) → List (Option (Except Error Unit)) × Rows × Session library → Prop
  | underway {between : List (Meanwhile library)} (replies : List (Except Error ResultCode))
      {stepped : Session library} (made : session.stepping id between = (replies, stepped))
      (rows : ∀ reply ∈ replies, IsRow reply) :
      Walked id session between (replies.map fun _ => some (.ok ()), ⟨id, false⟩, stepped)
  | finished (before : List (Meanwhile library)) {later : List (Meanwhile library)}
      {meanwhile : Meanwhile library} (replies : List (Except Error ResultCode))
      {reply : Except Error ResultCode} {present stepped : Session library}
      {item : Option (Except Error Unit)} (made : session.stepping id before = (replies, present))
      (rows : ∀ reply ∈ replies, IsRow reply)
      (last : (meanwhile.change present).step meanwhile.conduct id = (reply, stepped))
      (ends : EndsWith id (meanwhile.change present) (reply, stepped) item) :
      Walked id session (before ++ meanwhile :: later)
        ((replies.map fun _ => some (.ok ())) ++ item :: List.replicate later.length none,
          ⟨id, true⟩, stepped.changing later)

/-! ### One step -/

/-- A step either comes to a row or ends the iteration. -/
theorem step_ends (keeps : Keeps conduct (fun _ => True) id.connection)
    (session : Session library) :
    IsRow (session.step conduct id).1 ∨ ∃ item, EndsWith id session (session.step conduct id) item := by
  by_cases guard : session.CanRun id
  · have careful : Careful (.any library) (fun _ => True) conduct id.connection :=
      keeps.careful (.any library) ⟨.releaseStatement id, trivial, rfl⟩
    obtain ⟨statement, code, world, paused, found, passage, stepped⟩ := careful.step_eq guard
    have isLive : (paused.returned (.step id) code world).isFinalized id = false :=
      (guard.kept passage.same).isLive
    have state (state : StatementState) :
        ((paused.returned (.step id) code world).setState id state).state? id = some state :=
      state?_setState_self isLive state
    rw [stepped]
    cases reached : stateAfterStep code with
    | row =>
      exact .inl ⟨⟨code⟩, rfl, stateAfterStep_eq_row_iff.mp reached⟩
    | done =>
      exact .inr ⟨none, .done (primary_of_stateAfterStep_eq_done reached) (state .done)⟩
    | error =>
      refine .inr ⟨_, .failed ?_⟩
      exact (state?_fail (α := ResultCode) conduct _ id.connection statement.sql code id).trans
        (state .error)
    | prepared => exact absurd reached (stateAfterStep_ne_prepared code)
    | finalized => exact absurd reached (stateAfterStep_ne_finalized code)
  · obtain ⟨message, refused⟩ := step_of_not_canRun conduct guard
    rw [refused]
    exact .inr ⟨_, .refused message guard⟩

/-! ### Moves -/

theorem next_row (row : IsRow (session.step conduct id).1) :
    Rows.next conduct ⟨id, false⟩ session =
      (some (.ok ()), ⟨id, false⟩, (session.step conduct id).2) := by
  obtain ⟨code, passed, row⟩ := row
  rcases made : session.step conduct id with ⟨reply, after⟩
  rw [made] at passed
  cases passed
  simp [Rows.next, made, row]

theorem next_end {item : Option (Except Error Unit)}
    (ends : EndsWith id session (session.step conduct id) item) :
    Rows.next conduct ⟨id, false⟩ session = (item, ⟨id, true⟩, (session.step conduct id).2) := by
  generalize made : session.step conduct id = outcome at ends
  cases ends with
  | @done code _ done _ =>
    have notRow : code.primary ≠ .row := by
      rw [done]
      decide
    simp [Rows.next, made, notRow]
  | failed _ | refused _ _ => simp [Rows.next, made]

/-- Once the rows have ended, what happens to the session is only what callers do in between. -/
theorem walk_finished (session : Session library) (id : StatementId)
    (later : List (Meanwhile library)) :
    Rows.walk ⟨id, true⟩ session later =
      (List.replicate later.length none, ⟨id, true⟩, session.changing later) := by
  induction later generalizing session with
  | nil => rfl
  | cons meanwhile rest ih =>
    have unmoved : Rows.next meanwhile.conduct ⟨id, true⟩ (meanwhile.change session) =
        (none, ⟨id, true⟩, meanwhile.change session) := rfl
    rw [Rows.walk, unmoved]
    dsimp only
    rw [ih]
    rfl

/-- A row before what comes of moving on. -/
theorem Walked.row {meanwhile : Meanwhile library} {rest : List (Meanwhile library)}
    {walked : List (Option (Except Error Unit)) × Rows × Session library}
    (row : IsRow ((meanwhile.change session).step meanwhile.conduct id).1)
    (later : Walked id ((meanwhile.change session).step meanwhile.conduct id).2 rest walked) :
    Walked id session (meanwhile :: rest) (some (.ok ()) :: walked.1, walked.2) := by
  cases later with
  | underway replies made rows =>
    refine .underway (((meanwhile.change session).step meanwhile.conduct id).1 :: replies) ?_
      (List.forall_mem_cons.mpr ⟨row, rows⟩)
    rw [stepping]
    simp only [made]
  | finished before replies made rows last ends =>
    refine .finished (meanwhile :: before)
      (((meanwhile.change session).step meanwhile.conduct id).1 :: replies) ?_
      (List.forall_mem_cons.mpr ⟨row, rows⟩) last ends
    rw [stepping]
    simp only [made]

/-- However often a caller moves to the next row, and whatever happens in between, the rows tell of
every step once and make none after the end. -/
theorem rows_end_once (session : Session library) (id : StatementId)
    (between : List (Meanwhile library))
    (keeps : ∀ meanwhile ∈ between, Keeps meanwhile.conduct (fun _ => True) id.connection) :
    Walked id session between ((Rows.ofStatement id).walk session between) := by
  induction between generalizing session with
  | nil => exact .underway [] rfl nofun
  | cons meanwhile rest ih =>
    rw [Rows.walk, Rows.ofStatement]
    obtain ⟨keeps, keepsRest⟩ := List.forall_mem_cons.mp keeps
    obtain row | ⟨item, ends⟩ := step_ends keeps (meanwhile.change session)
    · rw [next_row row]
      exact .row row (ih _ keepsRest)
    · rw [next_end ends]
      dsimp only
      rw [walk_finished]
      exact .finished [] [] rfl nofun rfl ends

/-- A library in which every statement has two rows, and the third step and the ones after it
fail. -/
def failing : Library :=
  Native.scripted fun count call =>
    match call with
    | .step _ => if count < 4 then (100 : Int32) else 19
    | call => call.uneventful

/-- The rows of a statement that comes to two rows and then fails. -/
theorem rows_end_once_failing :
    let session := (withCapacity failing 1).runAll []
      [.perform (.openWith .inMemory), .perform (.prepare 0 "SELECT 1")]
    let between : List (Meanwhile failing) :=
      List.replicate 5 ⟨fun session => session, .byRules []⟩
    let walked := (Rows.ofStatement ⟨0, 0⟩).walk session between
    (∀ meanwhile ∈ between, Keeps meanwhile.conduct (fun _ => True) 0) ∧
      walked.1.map Option.isSome = [true, true, true, false, false] ∧
      Walked ⟨0, 0⟩ session between walked := by
  intro session between walked
  have keeps : ∀ meanwhile ∈ between, Keeps meanwhile.conduct (fun _ => True) 0 := by
    intro meanwhile listed
    rw [(List.mem_replicate.mp listed).2]
    exact fun _ _ _ => .rest
  exact ⟨keeps, by decide, rows_end_once session ⟨0, 0⟩ between keeps⟩

/-- The rows of a statement whose connection was closed before it ran end with an error, and the
statement is still as it was prepared. -/
theorem stranded_statement_stays_prepared :
    let session := (withCapacity failing 1).runAll []
      [.perform (.openWith .inMemory), .perform (.prepare 0 "SELECT 1"), .perform (.close 0)]
    let walked := (Rows.ofStatement ⟨0, 0⟩).walk session
      (List.replicate 3 ⟨fun session => session, .byRules []⟩)
    walked.1 = [some (.error (.misuse "connection is closed")), none, none] ∧
      walked.2.2.state? ⟨0, 0⟩ = some .prepared :=
  ⟨rfl, rfl⟩

end Session

end SqliteBridge
