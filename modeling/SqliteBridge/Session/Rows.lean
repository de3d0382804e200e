import SqliteBridge.Session.Statement

/-! Rows: an iteration that steps a statement. It ends with the last row or with the
first error and never steps again, although the statement itself could start over. -/
namespace SqliteBridge

open Native (Library)

structure Rows where
  statement : StatementId
  isFinished : Bool
deriving DecidableEq

namespace Rows

variable {library : Library} (conduct : Conduct library)

/-- The rows that a statement has left. -/
def ofStatement (statement : StatementId) : Rows := ⟨statement, false⟩

/-- Moves to the next row. There is none after the last one, nor after an error. -/
def next (rows : Rows) (session : Session library) :
    Option (Except Error Unit) × Rows × Session library :=
  if rows.isFinished then (none, rows, session)
  else
    match session.step conduct rows.statement with
    | (.ok code, session) =>
      if code.primary = .row then (some (.ok ()), rows, session)
      else (none, { rows with isFinished := true }, session)
    | (.error error, session) =>
      (some (.error error), { rows with isFinished := true }, session)

/-- Reads a column of the present row. -/
def read (rows : Rows) (reading : Reading) (column : Int32) (session : Session library) :
    Except Error Cell × Session library :=
  session.column conduct rows.statement reading column

/-- Reads columns of the present row in order, up to the first error. -/
def cells (rows : Rows) :
    List (Reading × Int32) → Session library → Except Error (List Cell) × Session library
  | [], session => (.ok [], session)
  | (reading, column) :: more, session =>
    match rows.read conduct reading column session with
    | (.error error, session) => (.error error, session)
    | (.ok cell, session) =>
      let (rest, session) := rows.cells more session
      (rest.map fun cells => cell :: cells, session)

/-- Moves to the next row so many times and reads the same columns of each row. -/
def take (rows : Rows) (columns : List (Reading × Int32)) :
    Nat → Session library → List (Option (Except Error (List Cell))) × Rows × Session library
  | 0, session => ([], rows, session)
  | count + 1, session =>
    let (item, rows, session) := rows.next conduct session
    let (item, session) : Option (Except Error (List Cell)) × Session library :=
      match item with
      | none => (none, session)
      | some (.error error) => (some (.error error), session)
      | some (.ok ()) =>
        let (row, session) := rows.cells conduct columns session
        (some row, session)
    let (items, rows, session) := rows.take columns count session
    (item :: items, rows, session)

end Rows

end SqliteBridge
