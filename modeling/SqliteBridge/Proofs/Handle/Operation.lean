import SqliteBridge.Proofs.Handle.Consistency

/-! The operations of a table as values, so that a run is a list of them. Only a
creation and a disposal change the table. -/
namespace SqliteBridge.Handle.Table

variable {α : Type} {table : Table α}

inductive Operation (α : Type) where
  | create (target : α)
  | dispose (token : Token)
  | get (token : Token)
  | resolve (token : Token)
  | isDisposed (token : Token)
  | size
  | isEmpty

inductive Answer (α : Type) where
  | created (result : Except Error Token)
  | disposed (wasLive : Bool)
  | found (target? : Option α)
  | resolved (result : Except Failure α)
  | flag (b : Bool)
  | count (n : Nat)

def perform (table : Table α) : Operation α → Answer α × Table α
  | .create target =>
    let (result, table) := table.create target
    (.created result, table)
  | .dispose token =>
    let (wasLive, table) := table.dispose token
    (.disposed wasLive, table)
  | .get token => (.found (table.get? token), table)
  | .resolve token => (.resolved (table.resolve token), table)
  | .isDisposed token => (.flag (table.isDisposed token), table)
  | .size => (.count table.size, table)
  | .isEmpty => (.flag table.isEmpty, table)

/-- The table after a run. -/
def run (table : Table α) (operations : List (Operation α)) : Table α :=
  operations.foldl (fun table operation => (table.perform operation).2) table

theorem run_append (operations others : List (Operation α)) :
    table.run (operations ++ others) = (table.run operations).run others :=
  List.foldl_append

end SqliteBridge.Handle.Table
