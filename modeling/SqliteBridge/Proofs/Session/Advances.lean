import SqliteBridge.Proofs.Handle.Issues
import SqliteBridge.Proofs.Session.Parallel

/-! Advances. What is done to one connection does nothing to the others, and the tokens that are
issued meanwhile are those of the connection and of its statements. -/
namespace SqliteBridge.Session

open Handle (Token)
open Handle.Population (Issues issues_disposeToken issues_toToken_error issues_toToken_ok)
open Native (Library)

variable {library : Library} {motion : Motion library} {separation : Separation library}
  {allowed : Act → Prop} {conduct : Conduct library} {session before after : Session library}
  {id subject : Nat}

/-! ### Healthy sessions -/

/-- What holds of a session whose library asks none but the registered callbacks. -/
structure Healthy (session : Session library) : Prop where
  custody : session.Custody
  matched : session.TokensMatched
  vacant : session.Vacant

theorem healthy_withCapacity (limit : Nat) : (withCapacity library limit).Healthy where
  custody := custody_withCapacity limit
  matched := ⟨Handle.Population.withCapacity_matched limit,
    Handle.Population.withCapacity_matched limit⟩
  vacant := vacant_withCapacity limit

theorem Custody.boxed (custody : session.Custody) : session.Boxed :=
  ⟨custody.lt_length, custody.apart⟩

/-! ### Paths on which no token is asked for -/

/-- No token is issued, of a connection or of a statement. -/
structure IssuesNone (before after : Session library) : Prop where
  connections : Issues [] before.connectionTokens after.connectionTokens
  statements : Issues [] before.statementTokens after.statementTokens

theorem IssuesNone.of_eq (connections : after.connectionTokens = before.connectionTokens)
    (statements : after.statementTokens = before.statementTokens) : IssuesNone before after :=
  ⟨.of_eq (congrArg _ connections), .of_eq (congrArg _ statements)⟩

theorem Turn.issuesNone (turn : Turn motion allowed before after)
    (tokenless : ∀ act, allowed act → act.isTokenless = true) : IssuesNone before after := by
  cases turn with
  | connectionToken id issues => cases tokenless _ issues
  | statementToken id issues => cases tokenless _ issues
  | disposesConnection id => exact ⟨issues_disposeToken _ _, .refl⟩
  | disposesStatement id => exact ⟨.refl, issues_disposeToken _ _⟩
  | opens _ _ _ _ attempt => exact .of_eq attempt.connectionTokens attempt.statementTokens
  | fails _ _ _ _ attempt => exact .of_eq attempt.connectionTokens attempt.statementTokens
  | closes | authorizes | declines =>
    exact .of_eq (by simp [setAddress, markClosed]) (by simp [setAddress, markClosed])
  | _ => exact .of_eq rfl rfl

theorem Path.issuesNone (path : Path motion allowed before after)
    (tokenless : ∀ act, allowed act → act.isTokenless = true) : IssuesNone before after := by
  induction path with
  | refl => exact ⟨.refl, .refl⟩
  | tail _ turn ih =>
    have issues := turn.issuesNone tokenless
    exact ⟨ih.connections.trans issues.connections, ih.statements.trans issues.statements⟩

/-! ### Advances -/

/-- What is done to one connection, with the tokens that are issued to it and to its statements. -/
structure Advance (separation : Separation library) (subject : Nat)
    (issued : List (Token × Nat)) (issued' : List (Token × StatementId))
    (before after : Session library) : Prop where
  log_suffix : before.log <:+ after.log
  length_le : before.connections.length ≤ after.connections.length
  matched (matched : before.TokensMatched) : after.TokensMatched
  healthy (healthy : before.Healthy) (registered : Throughout CallsRegistered after.log) :
    after.Healthy
  untouched (healthy : before.Healthy) (registered : Throughout CallsRegistered after.log) {id : Nat}
    (isOld : id < before.connections.length) (other : id ≠ subject) :
    Untouched separation id before after
  issues : Issues issued before.connectionTokens after.connectionTokens
  issues' : Issues issued' before.statementTokens after.statementTokens
  about : ∀ entry ∈ issued, entry.2 = subject
  about' : ∀ entry ∈ issued', entry.2.connection = subject

namespace Advance

variable {issued later : List (Token × Nat)} {issued' later' : List (Token × StatementId)}

theorem of_path (path : Path separation.motion allowed before after)
    (touched : ∀ id, Touched allowed id → id < before.connections.length ∧ id = subject)
    (issues : Issues issued before.connectionTokens after.connectionTokens)
    (issues' : Issues issued' before.statementTokens after.statementTokens)
    (about : ∀ entry ∈ issued, entry.2 = subject)
    (about' : ∀ entry ∈ issued', entry.2.connection = subject) :
    Advance separation subject issued issued' before after where
  log_suffix := path.log_suffix
  length_le := path.length_le
  matched := path.tokensMatched
  healthy healthy registered := ⟨path.custody registered healthy.custody,
    path.tokensMatched healthy.matched, path.vacant healthy.vacant healthy.custody registered
      fun id isTouched => (touched id isTouched).1⟩
  untouched healthy _ _ isOld other :=
    path.untouched healthy.custody.boxed (fun isTouched => other (touched _ isTouched).2) isOld
  issues := issues
  issues' := issues'
  about := about
  about' := about'

theorem refl : Advance separation subject [] [] session session :=
  ⟨List.suffix_refl _, Nat.le_refl _, id, fun healthy _ => healthy, fun _ _ _ _ _ => .refl, .refl,
    .refl, nofun, nofun⟩

theorem trans {first second third : Session library}
    (early : Advance separation subject issued issued' first second)
    (late : Advance separation subject later later' second third) :
    Advance separation subject (issued ++ later) (issued' ++ later') first third where
  log_suffix := early.log_suffix.trans late.log_suffix
  length_le := Nat.le_trans early.length_le late.length_le
  matched matched := late.matched (early.matched matched)
  healthy healthy registered :=
    late.healthy (early.healthy healthy (registered.suffix late.log_suffix)) registered
  untouched healthy registered _ isOld other := by
    have registered' := registered.suffix late.log_suffix
    exact (early.untouched healthy registered' isOld other).trans
      (late.untouched (early.healthy healthy registered') registered
        (Nat.lt_of_lt_of_le isOld early.length_le) other)
  issues := early.issues.trans late.issues
  issues' := early.issues'.trans late.issues'
  about entry listed := (List.mem_append.mp listed).elim (early.about entry) (late.about entry)
  about' entry listed := (List.mem_append.mp listed).elim (early.about' entry) (late.about' entry)

/-- An attempt to open a connection. -/
theorem openWith (conduct : Conduct library) (session : Session library) (config : OpenConfig) :
    Advance separation subject [] [] session (session.openWith conduct config).2 := by
  have path : Path separation.motion (fun act => act = .perform (.openWith config)) session
      (session.openWith conduct config).2 := openWith_path ⟨config, by rfl⟩ conduct config
  have issues := Path.issuesNone path fun _ same => same ▸ rfl
  refine .of_path path ?_ issues.connections issues.statements nofun nofun
  rintro id ⟨_, rfl, about⟩
  cases about

/-- An act in which no token is asked for. -/
theorem act {answer : Callback → List (Option Callback × AuthorizationRequest) → Answer}
    (decides : Decides conduct answer) (act : Act) (about : act.connection? = some subject)
    (tokenless : act.isTokenless = true) (isOld : subject < session.connections.length) :
    Advance separation subject [] [] session (act.run conduct session) := by
  have path := decides.path separation.motion about tokenless session
  have issues := path.issuesNone fun _ allowed => allowed.2
  refine .of_path path (fun id touched => ?_) issues.connections issues.statements nofun nofun
  have same := touched_about_iff.mp touched
  exact ⟨same ▸ isOld, same⟩

theorem connectionToken (matched : session.TokensMatched)
    (isOld : subject < session.connections.length) :
    Advance separation subject
      ((session.connectionToken subject).1.toOption.toList.map fun token => (token, subject)) []
      session (session.connectionToken subject).2 := by
  have path : Path separation.motion (fun act => act = .connectionToken subject) session
      (session.connectionToken subject).2 := .single (.connectionToken subject rfl)
  refine .of_path path ?_ ?_ .refl ?_ nofun
  · rintro id ⟨_, rfl, about⟩
    cases about
    exact ⟨isOld, rfl⟩
  · cases made : (session.connectionToken subject).1 with
    | ok token => exact issues_toToken_ok matched.connections made
    | error => exact issues_toToken_error matched.connections made
  · intro entry listed
    obtain ⟨_, -, rfl⟩ := List.mem_map.mp listed
    rfl

theorem statementToken {index : Nat} (matched : session.TokensMatched)
    (isOld : subject < session.connections.length) :
    Advance separation subject []
      ((session.statementToken ⟨subject, index⟩).1.toOption.toList.map fun token =>
        (token, ⟨subject, index⟩))
      session (session.statementToken ⟨subject, index⟩).2 := by
  have path : Path separation.motion (fun act => act = .statementToken ⟨subject, index⟩) session
      (session.statementToken ⟨subject, index⟩).2 := .single (.statementToken ⟨subject, index⟩ rfl)
  refine .of_path path ?_ .refl ?_ nofun ?_
  · rintro id ⟨_, rfl, about⟩
    cases about
    exact ⟨isOld, rfl⟩
  · cases made : (session.statementToken ⟨subject, index⟩).1 with
    | ok token => exact issues_toToken_ok matched.statements made
    | error => exact issues_toToken_error matched.statements made
  · intro entry listed
    obtain ⟨_, -, rfl⟩ := List.mem_map.mp listed
    rfl

end Advance

end SqliteBridge.Session
