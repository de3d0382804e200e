import SqliteBridge.Proofs.Session.Unattended

/-! Misuse. An operation is refused as misuse where what it names has ended. What the library
refuses is told with the text that was run, or with the path that was opened, and so it is told
apart. -/
namespace SqliteBridge

/-- Whether a connection that is closed in the end is closed without an error. -/
def Event.closesCleanly : Event → Bool
  | leaves (.closeV2 _) code => code = 0
  | _ => true

namespace Session

open Native (Library)

variable {library : Library} {conduct : Conduct library} {session : Session library} {α : Type}
  {message : String}

/-- What is misused if a request is refused as misuse. -/
def Misused (session : Session library) (message : String) : Target → Prop
  | .nothing => False
  | .connection id => session.isClosed id = true
  | .statement id => session.isFinalized id = true ∨
    message = "connection is closed" ∧ session.isClosed id.connection = true

theorem fail_ne_misuse (conduct : Conduct library) (session : Session library) (id : Nat)
    (sql : String) (code : Int32) (message : String) :
    (session.fail conduct id sql code : Except Error α × _).1 ≠ .error (.misuse message) := by
  intro refused
  cases congrArg Error.sql? (Except.error.inj refused)

theorem check_ne_misuse (conduct : Conduct library) (session : Session library) (id : Nat)
    (sql : String) (code : Int32) (message : String) :
    (session.check conduct id sql code).1 ≠ .error (.misuse message) := by
  unfold check
  split
  · exact nofun
  · exact fail_ne_misuse conduct session id sql code message

theorem whileOpen_misuse {id : Nat} {operation : ConnectionHandle → Except Error α × Session library}
    (passes : ∀ connection, (operation connection).1 ≠ .error (.misuse message))
    (refused : (session.whileOpen id operation).1 = .error (.misuse message)) :
    session.isClosed id = true := by
  refine eq_true_of_ne_false fun isOpen => ?_
  obtain ⟨connection, -, -, passed⟩ := whileOpen_of_isOpen isOpen
  rw [passed] at refused
  exact passes connection refused

theorem onStatement_misuse {id : StatementId}
    {operation : StatementHandle → Except Error α × Session library}
    (passes : ∀ statement, (operation statement).1 ≠ .error (.misuse message))
    (refused : (session.onStatement id operation).1 = .error (.misuse message)) :
    Misused session message (.statement id) := by
  cases isFinalized : session.isFinalized id with
  | true => exact .inl isFinalized
  | false =>
    obtain ⟨statement, found, live⟩ := session.isFinalized_eq_false_iff.mp isFinalized
    simp only [onStatement, found, if_neg live] at refused
    have isClosed := whileOpen_misuse (fun _ => passes statement) refused
    rw [whileOpen_of_isClosed isClosed] at refused
    exact .inr ⟨congrArg StatusError.message (Error.status.inj (Except.error.inj refused)).symm,
      isClosed⟩

/-- The requests whose failures in the library are told with a text. -/
def Request.tellsText : Request → Bool
  | openWith _ | close _ | setAuthorizer _ _ => false
  | _ => true

theorem perform_misuse {request : Request} (tellsText : request.tellsText = true)
    (refused : (session.perform conduct request).1 = .error (.misuse message)) :
    Misused session message request.target := by
  cases request with
  | openWith | close | setAuthorizer => cases tellsText
  | errorMessage | errorCode | changes | lastInsertedId =>
    exact whileOpen_misuse (fun _ replied => by cases replied) (replying_eq_error refused)
  | parameterCount | columnCount | columnName | column =>
    exact onStatement_misuse (fun _ replied => by cases replied) (replying_eq_error refused)
  | prepare id sql =>
    refine whileOpen_misuse (fun connection => ?_) (replying_eq_error refused)
    split
    · exact nofun
    split
    · exact nofun
    dsimp only
    split
    · exact fail_ne_misuse conduct _ id sql _ message
    split
    · exact nofun
    · exact nofun
  | exec id sql =>
    refine whileOpen_misuse (fun connection => ?_) (replying_eq_error refused)
    split
    · exact nofun
    dsimp only
    split
    · exact nofun
    split
    · exact fail_ne_misuse conduct _ id sql _ message
    · intro freed
      cases congrArg Error.sql? (Except.error.inj freed)
  | step id =>
    refine onStatement_misuse (fun statement => ?_) (replying_eq_error refused)
    dsimp only
    split
    · exact fail_ne_misuse conduct _ id.connection statement.sql _ message
    · intro replied
      cases replied
  | reset id =>
    refine onStatement_misuse (fun statement => ?_) (replying_eq_error refused)
    dsimp only
    split
    · exact nofun
    · exact check_ne_misuse conduct _ id.connection statement.sql _ message
  | clearBindings id | bind id =>
    exact onStatement_misuse
      (fun statement => check_ne_misuse conduct _ id.connection statement.sql _ message)
      (replying_eq_error refused)
  | finalize id =>
    refine .inl (eq_true_of_ne_false fun isLive => ?_)
    obtain ⟨statement, found, live⟩ := session.isFinalized_eq_false_iff.mp isLive
    have refused := replying_eq_error refused
    simp only [finalize, found, if_neg live] at refused
    split at refused
    · cases refused
    · exact check_ne_misuse conduct _ id.connection statement.sql _ message refused
  | describe | version => cases refused

/-- What is said of connections and statements that have ended. -/
def endTexts : List String :=
  ["connection is closed", "connection is already closed", "statement is finalized",
    "statement is already finalized"]

theorem openWith_misuse {config : OpenConfig}
    (refused : (session.openWith conduct config).1 = .error (.misuse message)) :
    message ∉ endTexts := by
  have told : message = s!"could not open database at path  {config.path}" := by
    unfold openWith at refused
    split at refused
    · cases refused
    · dsimp only at refused
      split at refused
      · cases refused
      · exact (congrArg StatusError.message (Error.status.inj (Except.error.inj refused))).symm
  intro listed
  have third : message.toList[2]? = some 'u' := by
    rw [told, String.toList_append, List.getElem?_append_left (by decide)]
    decide
  simp only [endTexts, List.mem_cons, List.not_mem_nil, or_false] at listed
  rcases listed with rfl | rfl | rfl | rfl <;> revert third <;> decide

/-- Connections are closed without an error. -/
def ClosesCleanly (event : Event) (_ : List Event) : Prop := event.closesCleanly = true

instance (event : Event) (earlier : List Event) : Decidable (ClosesCleanly event earlier) :=
  inferInstanceAs (Decidable (event.closesCleanly = true))

/-- An open connection that is closed without an error is closed with success. -/
theorem close_eq_ok {id : Nat} (unattended : session.callbacks = []) (isOpen : session.isClosed id = false)
    (closes : Throughout ClosesCleanly (session.close conduct id).2.log) :
    (session.close conduct id).1 = .ok () := by
  obtain ⟨⟨code, log, ended, recorded⟩, -⟩ := close_unattended unattended conduct isOpen
  rw [recorded] at closes
  have success : code = 0 := of_decide_eq_true closes.1
  rw [ended, if_pos success]

end Session

end SqliteBridge
