import SqliteBridge.Sql.Execution
import SqliteBridge.Sql.Reading

/-! The database library itself: a connection with its tables, its compiled
statements and the status of its last call. A statement is known by its number, which
is never used again. -/
namespace SqliteBridge.Sql

/-- The release of the database library. -/
def version : String := "3.51.3"

/-- The release as one number, three digits for each of its last two parts. -/
def versionNumber : Nat := 3051003

/-- Where a compiled statement stands. -/
inductive Phase where
  /-- Not started. A fault here is one of compiling it again. -/
  | ready (refused? : Option Fault)
  /-- On a row of its result. -/
  | row (cells : List Datum) (progress : Progress)
  /-- Run to its end or to a fault. -/
  | halted (fault? : Option Fault)

structure Compiled where
  source : Prepared
  plan : Plan
  /-- The schema for which the plan was made. -/
  version : Nat
  /-- Whether the plan is known to be out of date: an authorizer was installed since it
  was made, or a run found the schema changed. -/
  expired : Bool
  bindings : Bindings
  phase : Phase

structure Connection where
  readOnly : Bool
  schema : Schema
  nextVersion : Nat
  /-- The schema to return to while a transaction is open. -/
  savepoint? : Option Schema
  /-- The outcome of the last call; a message is given only where it is not that of
  the code. -/
  status : Fault
  changes : Nat
  lastInsertedId : Int64
  /-- The address of the authorizer. -/
  authorizer? : Option Nat
  statements : List (Option Compiled)

namespace Compiled

/-- Whether the statement has run since it was last reset. -/
def hasRun (statement : Compiled) : Bool :=
  match statement.phase with
  | .ready _ => false
  | _ => true

/-- Whether the statement is on a row of a table. -/
def isReading (statement : Compiled) : Bool :=
  match statement.phase with
  | .row _ _ => statement.plan.readsTable
  | _ => false

/-- The fault of the last run, or of compiling again. -/
def fault? (statement : Compiled) : Option Fault :=
  match statement.phase with
  | .ready fault? => fault?
  | .halted fault? => fault?
  | .row _ _ => none

end Compiled

namespace Connection

def success : Fault := .ofCode .ok

/-- The fault of a run that finds its plan made for another schema. -/
def schemaChanged : Fault := .running .schema

/-- A fresh connection without tables. -/
def fresh (readOnly : Bool) : Connection :=
  ⟨readOnly, .empty, 1, none, success, 0, 0, none, []⟩

instance : Inhabited Connection := ⟨fresh false⟩

/-- Opens a database. A database in memory opens in every valid mode, and nothing
else can be opened. A failed attempt has a connection too, which must be closed. -/
def openDatabase (path : String) (flags : Int32) : ResultCode × Connection :=
  let isSet (bit : Int32) : Bool := flags &&& bit != 0
  let connection := fresh (isSet 0x1)
  if (isSet 0x1 && (isSet 0x2 || isSet 0x4)) || (!isSet 0x1 && !isSet 0x2) then
    (.misuse, connection)
  else if isSet 0x80 || path == ":memory:" || path.isEmpty then (.ok, connection)
  else (.cannotOpen, connection)

def withStatus (connection : Connection) (status : Fault) : Connection :=
  { connection with status }

/-- A step that delivers a row or ends, and a value that is bound, put their code into
the status and leave the message there as it was. -/
def withCode (connection : Connection) (code : ResultCode) : Connection :=
  { connection with status := ⟨code, connection.status.message?⟩ }

def errorCode (connection : Connection) : ResultCode := connection.status.code

/-- The message of the status. With the code of success a message left behind by an
earlier call does not show. -/
def errorMessage (connection : Connection) : String :=
  if connection.status.code = .ok then success.message else connection.status.message

def statement? (connection : Connection) (id : Nat) : Option Compiled :=
  (connection.statements[id]?).join

def putStatement (connection : Connection) (id : Nat) (statement : Option Compiled) :
    Connection :=
  { connection with statements := connection.statements.set id statement }

/-! ### Compiling -/

/-- The plan of a statement on the present schema. The authorizer is asked. -/
def plan (connection : Connection) (statement : Statement) : Inquiry (Except Fault Plan) := do
  let (result, _) ← (Planning.plan connection.schema statement).run.run
    ⟨connection.authorizer?, false⟩
  pure result

def compile (connection : Connection) (source : Prepared) :
    Inquiry (Except Fault Compiled) := do
  match ← connection.plan source.statement with
  | .ok plan =>
    pure (.ok ⟨source, plan, connection.schema.version, false,
      List.replicate source.parameters .null, .ready none⟩)
  | .error fault => pure (.error fault)

/-- What becomes of a text that is prepared. -/
inductive Preparation where
  | statement
  | nothing
  | fault (fault : Fault)

/-- Compiles the first statement of a text. -/
def prepare (connection : Connection) (sql : String) : Inquiry (Preparation × Connection) := do
  match leadingStatement sql.toList with
  | .nothing => pure (.nothing, connection.withStatus success)
  | .fault fault => pure (.fault fault, connection.withStatus fault)
  | .statement source _ =>
    match ← connection.compile source with
    | .error fault => pure (.fault fault, connection.withStatus fault)
    | .ok statement =>
      pure (.statement, { connection with
        statements := connection.statements ++ [some statement] }.withStatus success)

/-! ### Running -/

/-- A schema that takes the place of the present one. -/
def changeSchema (connection : Connection) (relations : List Relation) : Connection :=
  { connection with
    schema := ⟨connection.nextVersion, relations⟩
    nextVersion := connection.nextVersion + 1 }

/-- Puts changed rows in place and counts them. A fault changes no row and counts as
no change, but the id of a row that had gone in by then stays known. -/
def applyChange (connection : Connection) :
    Except Interrupted Changed → Except Fault Unit × Connection
  | .error ⟨fault, lastInserted?⟩ =>
    (.error fault, { connection with
      changes := 0
      lastInsertedId := lastInserted?.getD connection.lastInsertedId })
  | .ok changed =>
    (.ok (), { connection with
      schema := connection.schema.put changed.relation
      changes := changed.count
      lastInsertedId := changed.lastInserted?.getD connection.lastInsertedId })

/-- A change of the rows of a table. -/
def changeRows (connection : Connection) (table : String)
    (change : Relation → Except Interrupted Changed) : Except Fault Unit × Connection :=
  match connection.schema.find? table with
  | none => (.error (.error ("no such table: " ++ table)), connection)
  | some relation => connection.applyChange (change relation)

def refuse (connection : Connection) (fault : Fault) : Except Fault Unit × Connection :=
  (.error fault, connection)

/-- Whether a plan needs to write. -/
def isWriting : Plan → Bool
  | .createTable _ _ => true
  | .insert _ _ _ => true
  | .update _ _ _ => true
  | .delete _ _ => true
  | .dropTable _ => true
  | _ => false

/-- Runs a plan that delivers no rows. `busy` says that another statement is reading
a table, which then cannot be dropped. -/
def execute (connection : Connection) (bindings : Bindings) (busy : Bool) (plan : Plan) :
    Except Fault Unit × Connection :=
  if connection.readOnly && isWriting plan then connection.refuse (.running .readOnly)
  else
    match plan with
    | .query _ => (.ok (), connection)
    | .nothing => (.ok (), connection)
    | .createTable name columns =>
      (.ok (), (connection.changeSchema
        (connection.schema.relations ++ [⟨name, columns, []⟩])).withStatus success)
    | .dropTable name =>
      if busy then connection.refuse (.running .locked)
      else
        (.ok (), connection.changeSchema
          (connection.schema.relations.filter fun relation => !sameName relation.name name))
    | .insert table positions rows =>
      connection.changeRows table fun relation =>
        Change.insertRows bindings positions ⟨relation, 0, none⟩ rows
    | .update table changes condition? =>
      connection.changeRows table fun relation =>
        Change.plain
          (Change.updateRows bindings changes condition? ⟨relation, 0, none⟩ relation.rows)
    | .delete table condition? =>
      connection.changeRows table fun relation =>
        Change.plain (Change.deleteRows bindings condition? relation)
    | .begin =>
      match connection.savepoint? with
      | some _ => connection.refuse (.error "cannot start a transaction within a transaction")
      | none => (.ok (), { connection with savepoint? := some connection.schema })
    | .commit =>
      match connection.savepoint? with
      | some _ => (.ok (), { connection with savepoint? := none })
      | none => connection.refuse (.error "cannot commit - no transaction is active")
    | .rollback =>
      match connection.savepoint? with
      | some schema => (.ok (), { connection with schema, savepoint? := none })
      | none => connection.refuse (.error "cannot rollback - no transaction is active")

/-- The next row of a query, or its end. -/
def advance (connection : Connection) (statement : Compiled) (q : Query) (progress : Progress) :
    ResultCode × Connection × Compiled :=
  match q.deliver connection.schema statement.bindings progress with
  | .row cells next =>
    (.row, connection.withCode .row, { statement with phase := .row cells next })
  | .done =>
    (.done, connection.withCode .done, { statement with phase := .halted none })
  | .failed fault =>
    (fault.code, connection.withStatus fault, { statement with phase := .halted (some fault) })

/-- Runs a statement from its start. -/
def start (connection : Connection) (busy : Bool) (statement : Compiled) :
    ResultCode × Connection × Compiled :=
  match statement.plan with
  | .query q => connection.advance statement q q.start
  | plan =>
    match connection.execute statement.bindings busy plan with
    | (.ok (), connection) =>
      (.done, connection.withCode .done, { statement with phase := .halted none })
    | (.error fault, connection) =>
      (fault.code, connection.withStatus fault, { statement with phase := .halted (some fault) })

/-- Whether the plan of a statement was made for another schema. -/
def isStale (connection : Connection) (statement : Compiled) : Bool :=
  statement.plan.usesSchema && statement.version != connection.schema.version

/-- Makes a statement that is not on a row ready for a run, with a new plan if its
plan is out of date. A statement that is known to have expired is not started for
that, while one that finds the schema changed has run into that fault: its message
stays, and if no new plan can be made the statement expires. -/
def refresh (connection : Connection) (statement : Compiled) :
    Inquiry (Except Fault Compiled × Connection × Compiled) := do
  if statement.expired || connection.isStale statement then
    match ← connection.plan statement.source.statement with
    | .ok plan =>
      let status := if statement.expired then success else schemaChanged
      let statement : Compiled := { statement with
        plan, version := connection.schema.version, expired := false, phase := .ready none }
      pure (.ok statement, connection.withStatus status, statement)
    | .error fault =>
      let phase : Phase :=
        if statement.expired then .ready (some fault) else .halted (some fault)
      pure (.error fault, connection, { statement with expired := true, phase })
  else
    pure (.ok statement, connection, statement)

/-- The status of a statement that is left: a run gives its outcome again, and
without a run the status stays. -/
def leave (connection : Connection) (statement : Compiled) : ResultCode × Connection :=
  let fault := statement.fault?.getD success
  (fault.code, if statement.hasRun then connection.withStatus fault else connection)

/-- Runs a statement to its next row or to its end. A statement that is not on a row is
left and starts from the beginning. -/
def run (connection : Connection) (busy : Bool) (statement : Compiled) :
    Inquiry (ResultCode × Connection × Compiled) := do
  match statement.phase, statement.plan with
  | .row _ progress, .query q => pure (connection.advance statement q progress)
  | _, _ =>
    match ← (connection.leave statement).2.refresh statement with
    | (.ok statement, connection, _) => pure (connection.start busy statement)
    | (.error fault, connection, statement) =>
      pure (fault.code, connection.withStatus fault, statement)

/-- Whether a statement other than `id` is reading a table. -/
def isBusyFor (connection : Connection) (id : Nat) : Bool :=
  (List.range connection.statements.length).any fun other =>
    other != id && (match connection.statement? other with
      | some statement => statement.isReading
      | none => false)

def step (connection : Connection) (id : Nat) : Inquiry (ResultCode × Connection) := do
  match connection.statement? id with
  | none => pure (.misuse, connection)
  | some statement =>
    let (code, connection, statement) ← connection.run (connection.isBusyFor id) statement
    pure (code, connection.putStatement id (some statement))

/-- Takes a statement back to its start. Its bindings stay. -/
def reset (connection : Connection) (id : Nat) : ResultCode × Connection :=
  match connection.statement? id with
  | none => (.misuse, connection)
  | some statement =>
    let (code, connection) := connection.leave statement
    (code, connection.putStatement id (some { statement with phase := .ready none }))

/-- Destroys a statement. -/
def finalize (connection : Connection) (id : Nat) : ResultCode × Connection :=
  match connection.statement? id with
  | none => (.misuse, connection)
  | some statement =>
    let (code, connection) := connection.leave statement
    (code, connection.putStatement id none)

/-! ### Parameters and columns -/

/-- The largest size in bytes of a text or blob in storage. -/
def lengthLimit : Nat := 1000000000

def isTooBig : Datum → Bool
  | .text bytes => decide (lengthLimit < bytes.size)
  | .blob bytes => decide (lengthLimit < bytes.size)
  | _ => false

/-- Binds a value to the parameter of a number, counted from one. A statement that
has run must be reset first. A value that is too big leaves the parameter null. -/
def bind (connection : Connection) (id : Nat) (number : Int32) (d : Datum) :
    ResultCode × Connection :=
  match connection.statement? id with
  | none => (.misuse, connection)
  | some statement =>
    if statement.hasRun then (.misuse, connection.withStatus (.ofCode .misuse))
    else if number.toInt < 1 ∨ (statement.bindings.length : Int) < number.toInt then
      (.range, connection.withStatus (.ofCode .range))
    else if isTooBig d then
      let bindings := statement.bindings.set (number.toInt.toNat - 1) .null
      (.tooBig, (connection.putStatement id (some { statement with bindings })).withStatus
        (.ofCode .tooBig))
    else
      let bindings := statement.bindings.set (number.toInt.toNat - 1) d
      (.ok, (connection.putStatement id (some { statement with bindings })).withCode .ok)

def clearBindings (connection : Connection) (id : Nat) : ResultCode × Connection :=
  match connection.statement? id with
  | none => (.misuse, connection)
  | some statement =>
    let bindings := statement.bindings.map fun _ => Datum.null
    (.ok, connection.putStatement id (some { statement with bindings }))

def parameterCount (connection : Connection) (id : Nat) : Nat :=
  ((connection.statement? id).map fun statement => statement.bindings.length).getD 0

def columnNames (connection : Connection) (id : Nat) : List String :=
  ((connection.statement? id).map fun statement => statement.plan.columnNames).getD []

/-- The cells of the row that a statement is on. -/
def currentRow (connection : Connection) (id : Nat) : List Datum :=
  match connection.statement? id with
  | some statement =>
    match statement.phase with
    | .row cells _ => cells
    | _ => []
  | none => []

/-- A blob that is read as text is text as long as the statement stays on the row. -/
def readAsText (statement : Compiled) (index : Nat) : Compiled :=
  match statement.phase with
  | .row cells progress =>
    { statement with phase := .row (cells.modify index Datum.blobAsText) progress }
  | _ => statement

/-- The cell of a column, counted from zero, for a reader that wants text or not.
Without a row or out of range it is null, and that is put into the status. -/
def column (connection : Connection) (id : Nat) (asText : Bool) (index : Int32) :
    Datum × Connection :=
  let cell? := if index < 0 then none else (connection.currentRow id)[index.toInt.toNat]?
  match cell? with
  | some d =>
    if asText then
      (d, connection.putStatement id
        ((connection.statement? id).map fun statement => readAsText statement index.toInt.toNat))
    else (d, connection)
  | none => (.null, connection.withStatus (.ofCode .range))

/-! ### The connection -/

/-- A bound on the steps of any statement from its start to its end. -/
def stepBound (connection : Connection) : Nat :=
  (connection.schema.relations.flatMap Relation.rows).length + 2

/-- Runs a statement, past all its rows, to its end. -/
def runToEnd :
    (fuel : Nat) → Connection → Compiled → Inquiry (Except Fault Unit × Connection)
  | 0, connection, _ => pure (.ok (), connection)
  | fuel + 1, connection, statement => do
    let busy := connection.statements.any fun other =>
      match other with
      | some other => other.isReading
      | none => false
    let (code, connection, statement) ← connection.run busy statement
    if code = .row then runToEnd fuel connection statement
    else
      match statement.fault? with
      | some fault => pure (.error fault, connection)
      | none => pure (.ok (), connection)

/-- Runs the statements of a text one after the other, up to the first fault. Each
turn takes a statement off the text. -/
def executeAll :
    (fuel : Nat) → Connection → List Char → Inquiry (Except Fault Unit × Connection)
  | 0, connection, _ => pure (.ok (), connection)
  | fuel + 1, connection, source => do
    match leadingStatement source with
    | .nothing => pure (.ok (), connection)
    | .fault fault => pure (.error fault, connection)
    | .statement prepared rest =>
      match ← connection.compile prepared with
      | .error fault => pure (.error fault, connection)
      | .ok statement =>
        match ← connection.runToEnd connection.stepBound statement with
        | (.error fault, connection) => pure (.error fault, connection)
        | (.ok (), connection) => executeAll fuel connection rest

def exec (connection : Connection) (sql : String) :
    Inquiry (Except Fault Unit × Connection) := do
  match ← executeAll (sql.length + 1) connection sql.toList with
  | (.ok (), connection) => pure (.ok (), connection.withStatus success)
  | (.error fault, connection) => pure (.error fault, connection.withStatus fault)

/-- Installs or removes the authorizer. A new one outdates the plans of all
statements. -/
def setAuthorizer (connection : Connection) (authorizer? : Option Nat) : Connection :=
  let connection := { connection with authorizer? }
  match authorizer? with
  | none => connection
  | some _ =>
    { connection with
      statements := connection.statements.map fun statement =>
        statement.map fun statement => { statement with expired := true } }

end Connection

end SqliteBridge.Sql
