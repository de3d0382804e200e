import SqliteBridge.Boundary.Trampoline
import SqliteBridge.Proofs.Handle.Consistency

/-! What a call asks for. A call takes at most one token, and what it asks for is about the
handle behind that token. -/
namespace SqliteBridge.Boundary

open Handle (Table Token)
open Native (Library)
open Session (Request)

variable {library : Library} {α β : Type} {session : Session library} {call : Call} {request : Request} {failure : Failure}
  {raw : Int64}

theorem target_eq_ok_iff {table : Table α} {object : α} (consistent : table.Consistent) :
    target table raw = .ok object ↔ table.get? ⟨raw⟩ = some object := by
  constructor
  · intro found
    unfold target at found
    split at found
    · rename_i token read
      obtain ⟨rfl, -, -⟩ := Token.ofRaw?_eq_some_iff.mp read
      unfold Table.resolve at found
      split at found
      · rename_i present
        rw [present]
        exact congrArg some (Except.ok.inj found)
      · contradiction
    · contradiction
  · intro present
    simp only [target, Table.ofRaw?_of_get? consistent present, Table.resolve, present]

theorem target_error {table : Table α} (failed : target table raw = .error failure) :
    ∃ message, failure = .aborted message := by
  unfold target Table.resolve at failed
  split at failed
  · split at failed
    · contradiction
    · exact ⟨_, (Except.error.inj failed).symm⟩
  · exact ⟨_, (Except.error.inj failed).symm⟩

theorem bind_eq_ok {x : Except Failure α} {f : α → Except Failure β} {b : β}
    (ended : (x >>= f) = .ok b) : ∃ a, x = .ok a ∧ f a = .ok b := by
  cases x with
  | ok a => exact ⟨a, rfl, ended⟩
  | error _ => contradiction

theorem bind_eq_error {x : Except Failure α} {f : α → Except Failure β}
    (failed : (x >>= f) = .error failure) :
    x = .error failure ∨ ∃ a, x = .ok a ∧ f a = .error failure := by
  cases x with
  | ok a => exact .inr ⟨a, rfl, failed⟩
  | error _ => exact .inl (congrArg Except.error (Except.error.inj failed))

namespace Call

/-- The token of a connection that the call takes. -/
def connectionToken? : Call → Option Int64
  | close raw => some raw
  | prepareStatement raw _ => some raw
  | errorMessage raw => some raw
  | errorCode raw => some raw
  | exec raw _ => some raw
  | changes raw => some raw
  | lastInsertedId raw => some raw
  | _ => none

/-- The token of a statement that the call takes. -/
def statementToken? : Call → Option Int64
  | step raw => some raw
  | reset raw => some raw
  | finalize raw => some raw
  | clearBindings raw => some raw
  | parameterCount raw => some raw
  | bindInt raw _ _ => some raw
  | bindLong raw _ _ => some raw
  | bindDouble raw _ _ => some raw
  | bindText raw _ _ => some raw
  | bindBlob raw _ _ => some raw
  | bindNull raw _ => some raw
  | columnCount raw => some raw
  | columnName raw _ => some raw
  | columnType raw _ => some raw
  | columnIsNull raw _ => some raw
  | columnInt raw _ => some raw
  | columnLong raw _ => some raw
  | columnDouble raw _ => some raw
  | columnText raw _ => some raw
  | columnBlob raw _ => some raw
  | _ => none

/-- A handle is asked through its token. -/
def Asks (session : Session library) (call : Call) : Session.Target → Prop
  | .nothing => call.connectionToken? = none ∧ call.statementToken? = none
  | .connection id =>
    ∃ raw, call.connectionToken? = some raw ∧ target session.connectionTokens.table raw = .ok id
  | .statement id =>
    ∃ raw, call.statementToken? = some raw ∧ target session.statementTokens.table raw = .ok id

theorem request_asks (asked : call.request session = .ok request) :
    call.Asks session request.target := by
  cases call with
  | openConnection _ =>
    obtain ⟨path, _, made⟩ := bind_eq_ok asked
    cases made
    exact ⟨rfl, rfl⟩
  | prepareStatement _ _ | exec _ _ | bindText _ _ _ | bindBlob _ _ _ =>
    obtain ⟨_, found, later⟩ := bind_eq_ok asked
    obtain ⟨_, _, made⟩ := bind_eq_ok later
    cases made
    exact ⟨_, rfl, found⟩
  | errorString _ | version =>
    cases asked
    exact ⟨rfl, rfl⟩
  | _ =>
    obtain ⟨_, found, made⟩ := bind_eq_ok asked
    cases made
    exact ⟨_, rfl, found⟩

/-- An argument that cannot be read is no misuse. -/
def Unreadable (failure : Failure) : Prop :=
  ∃ message, failure = .aborted message ∨ failure = .refused (.invalidArgument message)

theorem unreadable_target {table : Table α} (failed : target table raw = .error failure) :
    Unreadable failure := by
  obtain ⟨message, same⟩ := target_error failed
  exact ⟨message, .inl same⟩

theorem unreadable_text {text? : Option String}
    (failed : argument (requiredText text?) = .error failure) : Unreadable failure := by
  cases text? with
  | none => exact ⟨_, .inr (Except.error.inj failed).symm⟩
  | some _ => contradiction

theorem unreadable_bytes {bytes? : Option ByteArray}
    (failed : argument (requiredBytes bytes?) = .error failure) : Unreadable failure := by
  cases bytes? with
  | none => exact ⟨_, .inr (Except.error.inj failed).symm⟩
  | some _ => contradiction

theorem request_error (failed : call.request session = .error failure) : Unreadable failure := by
  cases call with
  | openConnection _ =>
    rcases bind_eq_error failed with unread | ⟨_, _, made⟩
    · exact unreadable_text unread
    · contradiction
  | prepareStatement _ _ | exec _ _ | bindText _ _ _ =>
    rcases bind_eq_error failed with unknown | ⟨_, _, later⟩
    · exact unreadable_target unknown
    · rcases bind_eq_error later with unread | ⟨_, _, made⟩
      · exact unreadable_text unread
      · contradiction
  | bindBlob _ _ _ =>
    rcases bind_eq_error failed with unknown | ⟨_, _, later⟩
    · exact unreadable_target unknown
    · rcases bind_eq_error later with unread | ⟨_, _, made⟩
      · exact unreadable_bytes unread
      · contradiction
  | errorString _ | version => contradiction
  | _ =>
    rcases bind_eq_error failed with unknown | ⟨_, _, made⟩
    · exact unreadable_target unknown
    · contradiction

/-! ### Bodies -/

variable (conduct : Conduct library)

theorem body_refused (unread : call.request session = .error failure) :
    call.body conduct session = (.error failure, session) := by
  simp only [body, unread]

/-- A request that fails is what the call fails with. -/
theorem body_failed {error : Error} (asked : call.request session = .ok request)
    (failed : (session.perform conduct request).1 = .error error) :
    call.body conduct session = (.error (.refused error),
      letGo conduct (session.perform conduct request).2 request.target) := by
  rcases performed : session.perform conduct request with ⟨outcome, after⟩
  rw [performed] at failed
  obtain rfl : outcome = .error error := failed
  simp only [body, asked, performed]

/-- A request that is replied to has its reply sent. -/
theorem body_replied {reply : Session.Reply} (asked : call.request session = .ok request)
    (replied : (session.perform conduct request).1 = .ok reply) :
    call.body conduct session =
      ((send conduct (session.perform conduct request).2 reply).1,
        letGo conduct (send conduct (session.perform conduct request).2 reply).2
          request.target) := by
  rcases performed : session.perform conduct request with ⟨outcome, after⟩
  rw [performed] at replied
  obtain rfl : outcome = .ok reply := replied
  simp only [body, asked, performed]

end Call

end SqliteBridge.Boundary
