import Mathlib.Logic.Relation
import SqliteBridge.Session.Query
import SqliteBridge.Session.Request

/-! Calls into the library. A call that asks nothing changes the state of the library and the
record, and nothing else. -/
namespace SqliteBridge

open Native (Call Course Library)

/-- Every stretch of a course, from a state in which it goes on to the next in which it asks or
returns, is a move. -/
def Native.Course.Within {World Result : Type} (moves : World → World → Prop) :
    World → Course World Result → Prop
  | before, .returns _ after => moves before after
  | before, .asks _ _ after resume =>
    moves before after ∧ ∀ code world, Within moves world (resume code world)

/-- What is known of the moves that calls about a connection make. -/
structure Motion (library : Library) where
  moves : Nat → library.World → library.World → Prop
  refl (connection : Nat) (world : library.World) : moves connection world world
  trans {connection : Nat} {first second third : library.World} :
    moves connection first second → moves connection second third → moves connection first third
  runs (call : Call) (world : library.World) :
    (library.run call world).Within (moves call.connection) world

/-- Nothing is known of the moves. -/
def Motion.any (library : Library) : Motion library where
  moves _ _ _ := True
  refl _ _ := trivial
  trans _ _ := trivial
  runs call world := by
    generalize library.run call world = course
    induction course generalizing world with
    | returns => trivial
    | asks _ _ _ _ ih => exact ⟨trivial, fun code world => ih code world world⟩

namespace Session

variable {library : Library} {conduct : Conduct library} {session : Session library}

/-- The session after a call has returned. -/
def returned (session : Session library) (call : Call) (result : call.Result)
    (world : library.World) : Session library :=
  { session with world, log := .leaves call result :: session.log }

/-- The session after a call that asked nothing. -/
def called (session : Session library) (call : Call) (result : call.Result)
    (world : library.World) : Session library :=
  (session.record (.enters call)).returned call result world

theorem native_of_compiles_eq_false (motion : Motion library) (call : Call)
    (silent : call.compiles = false) (conduct : Conduct library) (session : Session library) :
    ∃ result world, motion.moves call.connection session.world world ∧
      session.native conduct call = (result, session.called call result world) := by
  have returns := library.isReturn_run call session.world silent
  have moved := motion.runs call session.world
  rw [native]
  cases run : library.run call session.world with
  | asks => rw [run] at returns; contradiction
  | returns result world =>
    rw [run] at moved
    exact ⟨result, world, moved, rfl⟩

end Session

end SqliteBridge
