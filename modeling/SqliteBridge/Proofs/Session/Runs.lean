import SqliteBridge.Session.Request
import SqliteBridge.Session.Tokens

/-! Runs of a session. A run is made of acts: requests, tokens that are asked for, and handles that
are let go. While the library asks a callback, the callback may act as well, only not on the
connection that it is asked for, which is in the middle of a call. -/
namespace SqliteBridge.Session

open Native (Library)

inductive Act where
  | perform (request : Request)
  | connectionToken (id : Nat)
  | statementToken (id : StatementId)
  | releaseConnection (id : Nat)
  | releaseStatement (id : StatementId)
  /-- A reference goes that came from a token. -/
  | settleConnection (id : Nat)
  | settleStatement (id : StatementId)
deriving DecidableEq

namespace Act

variable {library : Library}

def run (conduct : Conduct library) (session : Session library) : Act → Session library
  | perform request => (session.perform conduct request).2
  | connectionToken id => (session.connectionToken id).2
  | statementToken id => (session.statementToken id).2
  | releaseConnection id => session.releaseConnection conduct id
  | releaseStatement id => session.releaseStatement conduct id
  | settleConnection id => session.settleConnection conduct id
  | settleStatement id => session.settleStatement conduct id

/-- The connection that an act is about. -/
def connection? : Act → Option Nat
  | perform request =>
    match request.target with
    | .nothing => none
    | .connection id => some id
    | .statement id => some id.connection
  | connectionToken id => some id
  | statementToken id => some id.connection
  | releaseConnection id => some id
  | releaseStatement id => some id.connection
  | settleConnection id => some id
  | settleStatement id => some id.connection

/-- Whether an act can be the end of a statement. -/
def Ends (id : StatementId) (act : Act) : Prop :=
  act = perform (.finalize id) ∨ act = releaseStatement id ∨ act = settleStatement id

/-- An act that stays away from a connection. -/
def SparesConnection (id : Nat) (act : Act) : Prop := act.connection? ≠ some id

/-- An act that stays away from the connection of another. -/
def Spares (other act : Act) : Prop := ∀ id, other.connection? = some id → act.SparesConnection id

end Act

variable {library : Library}

/-- From one session to another by acts of a kind. Each act has callbacks of its own, and what
they do in the course of it are again acts of that kind, which spare its connection. -/
inductive Evolves : (Act → Prop) → Session library → Session library → Prop where
  | rest {allowed : Act → Prop} {session : Session library} : Evolves allowed session session
  | act {allowed : Act → Prop} {session before : Session library}
    (earlier : Evolves allowed session before) (act : Act) (isAllowed : allowed act)
    (conduct : Conduct library)
    (keeps : ∀ callback request during,
      Evolves (fun other => allowed other ∧ act.Spares other) during
        (conduct callback request during).2) :
    Evolves allowed session (act.run conduct before)

/-- A session that a run has come to. -/
def IsReachable (session : Session library) : Prop :=
  ∃ limit, Evolves (fun _ => True) (withCapacity library limit) session

/-- Callbacks that act in this way when they are asked in the course of an act. -/
def Keeps (conduct : Conduct library) (allowed : Act → Prop) (id : Nat) : Prop :=
  ∀ callback request during,
    Evolves (fun other => allowed other ∧ other.SparesConnection id) during
      (conduct callback request during).2

theorem Evolves.trans {allowed : Act → Prop} {first second third : Session library}
    (early : Evolves allowed first second) (late : Evolves allowed second third) :
    Evolves allowed first third := by
  induction late with
  | rest => exact early
  | act _ act isAllowed conduct keeps ih => exact .act (ih early) act isAllowed conduct keeps

theorem Evolves.mono {allowed allowed' : Act → Prop} {before after : Session library}
    (weaker : ∀ act, allowed act → allowed' act) (evolves : Evolves allowed before after) :
    Evolves allowed' before after := by
  induction evolves generalizing allowed' with
  | rest => exact .rest
  | act _ act isAllowed conduct _ earlier keeps =>
    refine .act (earlier weaker) act (weaker act isAllowed) conduct fun callback request during => ?_
    exact keeps callback request during fun other spares => ⟨weaker other spares.1, spares.2⟩

theorem Keeps.mono {allowed allowed' : Act → Prop} {conduct : Conduct library} {id : Nat}
    (weaker : ∀ act, allowed act → allowed' act) (keeps : Keeps conduct allowed id) :
    Keeps conduct allowed' id := fun callback request during =>
  (keeps callback request during).mono fun _ spares => ⟨weaker _ spares.1, spares.2⟩

/-- One act about a connection. -/
theorem Evolves.single {allowed : Act → Prop} {conduct : Conduct library} (act : Act) {id : Nat}
    (about : act.connection? = some id) (isAllowed : allowed act) (keeps : Keeps conduct allowed id)
    (session : Session library) : Evolves allowed session (act.run conduct session) := by
  refine .act .rest act isAllowed conduct fun callback request during => ?_
  refine (keeps callback request during).mono fun other spares => ⟨spares.1, ?_⟩
  rintro _ same
  cases about.symm.trans same
  exact spares.2

theorem IsReachable.evolves {before after : Session library}
    (reachable : before.IsReachable) (evolves : Evolves (fun _ => True) before after) :
    after.IsReachable :=
  let ⟨limit, earlier⟩ := reachable
  ⟨limit, earlier.trans evolves⟩

/-- The session after acts whose callbacks go by rules. -/
def runAll (rules : List AuthorizationRules) (session : Session library) (acts : List Act) :
    Session library :=
  acts.foldl (fun session act => act.run (.byRules rules) session) session

theorem Evolves.runAll {allowed : Act → Prop} (rules : List AuthorizationRules)
    (session : Session library) (acts : List Act) (areAllowed : ∀ act ∈ acts, allowed act) :
    Evolves allowed session (session.runAll rules acts) := by
  induction acts generalizing session with
  | nil => exact .rest
  | cons act acts ih =>
    have first : Evolves allowed session (act.run (.byRules rules) session) :=
      .act .rest act (areAllowed act List.mem_cons_self) _ fun _ _ _ => .rest
    exact first.trans (ih _ fun other listed => areAllowed other (List.mem_cons_of_mem _ listed))

theorem isReachable_runAll (limit : Nat) (rules : List AuthorizationRules) (acts : List Act) :
    ((withCapacity library limit).runAll rules acts).IsReachable :=
  ⟨limit, .runAll rules _ acts fun _ _ => trivial⟩

end SqliteBridge.Session
