import SqliteBridge.Proofs.Session.Frame

/-! Interludes. In the middle of a call the library asks the callbacks of the connection, and the
callbacks act on other connections. The connection of the call is as it was when the call goes
on. -/
namespace SqliteBridge.Session

open Native (Call Course Library)

variable {library : Library} {motion : Motion library} {allowed : Act → Prop}
  {conduct : Conduct library} {session before after : Session library} {id : Nat}

/-- The acts of a kind that spare a connection. -/
def Sparing (allowed : Act → Prop) (id : Nat) (act : Act) : Prop :=
  allowed act ∧ act.SparesConnection id

theorem not_touched_sparing : ¬Touched (Sparing allowed id) id := by
  rintro ⟨act, ⟨-, spares⟩, about⟩
  exact spares about

/-- What happens in the middle of a call about a connection. -/
inductive Aside (motion : Motion library) (allowed : Act → Prop) (id : Nat) :
    Session library → Session library → Prop where
  | asks {session : Session library} (address : Nat) (request : AuthorizationRequest)
    (world : library.World) (moved : motion.moves id session.world world) :
    Aside motion allowed id session
      ({ session with world }.record (.asks id address (session.callback? address) request))
  | answers {session : Session library} (code : Int32) :
    Aside motion allowed id session (session.record (.answers id code))
  | turn {before after : Session library} (turn : Turn motion (Sparing allowed id) before after) :
    Aside motion allowed id before after

abbrev Interlude (motion : Motion library) (allowed : Act → Prop) (id : Nat) :
    Session library → Session library → Prop :=
  Relation.ReflTransGen (Aside motion allowed id)

theorem Turn.mono {allowed' : Act → Prop} (weaker : ∀ act, allowed act → allowed' act)
    (turn : Turn motion allowed before after) : Turn motion allowed' before after := by
  have touched {other : Nat} : Touched allowed other → Touched allowed' other :=
    fun ⟨act, isAllowed, about⟩ => ⟨act, weaker act isAllowed, about⟩
  have opened : Opened allowed → Opened allowed' := fun ⟨config, isAllowed⟩ =>
    ⟨config, weaker _ isAllowed⟩
  cases turn with
  | enters call about guard => exact .enters call (touched about) guard
  | leaves call result world about leaves moved =>
    exact .leaves call result world (touched about) leaves moved
  | asks connection address request world about moved =>
    exact .asks connection address request world (touched about) moved
  | answers connection code about => exact .answers connection code (touched about)
  | steps id code world about guard moved => exact .steps id code world (touched about) guard moved
  | resets id code world about guard moved =>
    exact .resets id code world (touched about) guard moved
  | prepares id sql preparation world about found isOpen next success moved =>
    exact .prepares id sql preparation world (touched about) found isOpen next success moved
  | destroys id ends isLive =>
    obtain ⟨act, isAllowed, isEnd⟩ := ends
    exact .destroys id ⟨act, weaker act isAllowed, isEnd⟩ isLive
  | opens path flags opening may attempt success moved =>
    exact .opens path flags opening (opened may) attempt success moved
  | fails path flags opening may attempt failure moved =>
    exact .fails path flags opening (opened may) attempt failure moved
  | closes id unset code between world about isOpen moved =>
    exact .closes id unset code between world (touched about) isOpen moved
  | authorizes id callback? world sets isOpen moved =>
    exact .authorizes id callback? world (weaker _ sets) isOpen moved
  | declines id callback? code bytes? between world about isOpen failure moved =>
    exact .declines id callback? code bytes? between world (touched about) isOpen failure moved
  | connectionToken id issues => exact .connectionToken id (weaker _ issues)
  | statementToken id issues => exact .statementToken id (weaker _ issues)
  | disposesConnection id about isClosed => exact .disposesConnection id (touched about) isClosed
  | disposesStatement id about isFinalized =>
    exact .disposesStatement id (touched about) isFinalized
  | releasesConnection id about => exact .releasesConnection id (touched about)
  | releasesStatement id about => exact .releasesStatement id (touched about)

theorem Path.mono {allowed' : Act → Prop} (weaker : ∀ act, allowed act → allowed' act)
    (path : Path motion allowed before after) : Path motion allowed' before after :=
  Relation.ReflTransGen.mono (fun _ _ turn => Turn.mono weaker turn) _ _ path

namespace Interlude

theorem of_path (path : Path motion (Sparing allowed id) before after) :
    Interlude motion allowed id before after :=
  Relation.ReflTransGen.mono (fun _ _ turn => .turn turn) _ _ path

theorem path (interlude : Interlude motion allowed id before after) (touched : Touched allowed id) :
    Path motion allowed before after := by
  refine Relation.ReflTransGen.mono (fun _ _ aside => ?_) _ _ interlude
  cases aside with
  | asks address request world moved => exact .asks id address request world touched moved
  | answers code => exact .answers id code touched
  | turn turn => exact turn.mono fun _ => And.left

theorem sameHandles (interlude : Interlude motion allowed id before after)
    (isOld : id < before.connections.length) :
    SameHandles id before after ∧ id < after.connections.length := by
  induction interlude with
  | refl => exact ⟨.refl, isOld⟩
  | tail _ aside ih =>
    cases aside with
    | asks | answers => exact ⟨ih.1.trans ⟨rfl, rfl, fun _ => rfl⟩, ih.2⟩
    | turn turn =>
      exact ⟨ih.1.trans (turn.sameHandles not_touched_sparing ih.2),
        Nat.lt_of_lt_of_le ih.2 turn.length_le⟩

end Interlude

/-- Callbacks whose doings about a connection are paths that spare it. -/
structure Careful (motion : Motion library) (allowed : Act → Prop) (conduct : Conduct library)
    (id : Nat) : Prop where
  touched : Touched allowed id
  keeps : ∀ callback request during,
    Path motion (Sparing allowed id) during (conduct callback request during).2

theorem Careful.consult_interlude (careful : Careful motion allowed conduct id) (address : Nat)
    (question : Native.Question) {world : library.World}
    (moved : motion.moves id session.world world) :
    Interlude motion allowed id session
      ({ session with world }.consult conduct id address question).2 := by
  have asked : Aside motion allowed id session _ :=
    .asks address (readQuestion question) world moved
  unfold consult
  cases found : ({ session with world } : Session library).callback? address with
  | none =>
    rw [show session.callback? address = none from found] at asked
    exact .single asked
  | some callback =>
    rw [show session.callback? address = some callback from found] at asked
    refine .trans (.single asked) (.tail (Interlude.of_path (careful.keeps callback _ _)) (.answers _))

/-- A call is followed through an interlude to its return. -/
theorem Careful.follow_interlude (call : Call)
    (careful : Careful motion allowed conduct call.connection) (session : Session library)
    {course : Course library.World call.Result}
    (within : course.Within (motion.moves call.connection) session.world) :
    ∃ result world paused, Interlude motion allowed call.connection session paused ∧
      motion.moves call.connection paused.world world ∧
      follow conduct call course session = (result, paused.returned call result world) := by
  induction course generalizing session with
  | returns result world => exact ⟨result, world, session, .refl, within, rfl⟩
  | asks address question world resume ih =>
    obtain ⟨moved, within⟩ := within
    have asked := careful.consult_interlude address question moved
    rcases reply : ({ session with world } : Session library).consult conduct call.connection
      address question with ⟨code, later⟩
    rw [reply] at asked
    obtain ⟨result, last, paused, interlude, moved, followed⟩ := ih code later.world later (within _ _)
    refine ⟨result, last, paused, asked.trans interlude, moved, ?_⟩
    simp only [follow, reply, followed]

/-- A call about a connection that was opened is entered, has its interlude, and returns. -/
theorem Careful.native_interlude (call : Call)
    (careful : Careful motion allowed conduct call.connection)
    (isOld : call.connection < session.connections.length) :
    ∃ result world paused,
      Interlude motion allowed call.connection (session.record (.enters call)) paused ∧
      SameHandles call.connection session paused ∧
      motion.moves call.connection paused.world world ∧
      session.native conduct call = (result, paused.returned call result world) := by
  obtain ⟨result, world, paused, interlude, moved, called⟩ :=
    careful.follow_interlude call (session.record (.enters call)) (motion.runs call session.world)
  have same := (interlude.sameHandles isOld).1
  exact ⟨result, world, paused, interlude,
    ⟨same.connection, same.connectionToken, same.statementToken⟩, moved, called⟩

end SqliteBridge.Session
