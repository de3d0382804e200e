import SqliteBridge.Sql.Plan
import SqliteBridge.Sql.Summation

/-! Running plans. A query delivers its rows one at a time and looks for the next
one only when it is asked; any other plan runs as a whole, and a fault in it leaves
the tables as they were. -/
namespace SqliteBridge.Sql

abbrev Bindings := List Datum

/-- What terms are evaluated in. -/
structure Scope where
  bindings : Bindings
  row? : Option Row

namespace Term

/-- The magnitude of a value; text counts as the real that it spells. A zero keeps its
sign. -/
def magnitude : Datum → Except Fault Datum
  | .null => .ok .null
  | .integer n =>
    if n = Int64.minValue then .error (.error "integer overflow")
    else .ok (.integer (if n < 0 then -n else n))
  | d => .ok (.real (if d.toReal.isZero then d.toReal else d.toReal.magnitude))

def negated : Datum → Datum
  | .null => .null
  | .integer n => if n = Int64.minValue then .real (.ofInt (-n.toInt)) else .integer (-n)
  | d =>
    match d.numeric with
    | .integer n => .integer (-n)
    | other => .real other.toReal.negate

/-- Equality of values; with null it is unknown. -/
def equality (affinity : Affinity) (left right : Datum) : Datum :=
  let left := left.withAffinity affinity
  let right := right.withAffinity affinity
  if left.isNull || right.isNull then .null
  else .integer (if Datum.compare left right == .eq then 1 else 0)

def evaluate (scope : Scope) : Term → Except Fault Datum
  | constant d => .ok d
  | parameter number => .ok (scope.bindings[number - 1]?.getD .null)
  | cell position =>
    .ok ((scope.row?.bind fun row => row.cells[position]?).getD .null)
  | rowId =>
    match scope.row? with
    | some row => .ok (.integer row.id)
    | none => .ok .null
  | absolute operand => do magnitude (← operand.evaluate scope)
  | cast operand affinity => do pure ((← operand.evaluate scope).cast affinity)
  | negate operand => do pure (negated (← operand.evaluate scope))
  | equal affinity left right => do
    let left ← left.evaluate scope
    let right ← right.evaluate scope
    pure (equality affinity left right)

/-- Whether a row satisfies a condition; the absent condition is always satisfied. -/
def holds (scope : Scope) : Option Term → Except Fault Bool
  | none => .ok true
  | some t => do pure (← t.evaluate scope).isTrue

end Term

/-! ### Queries -/

/-- Where a running query stands. -/
inductive Progress where
  /-- The one row of a query without a table is still to come. -/
  | single
  /-- The next row is the first past this row id, or the first of all. -/
  | after (id? : Option Int64)
  /-- These rows are still to come. -/
  | rows (rest : List (List Datum))

/-- What a query comes to when it is asked for a row. -/
inductive Delivery where
  | row (cells : List Datum) (next : Progress)
  | done
  | failed (fault : Fault)

namespace Query

/-- The rows of the table that the query reads. -/
def tableRows (q : Query) (schema : Schema) : List Row :=
  match q.table? with
  | some name => ((schema.find? name).map Relation.rows).getD []
  | none => []

def isAggregate : Output → Bool
  | .term _ => false
  | _ => true

def hasAggregate (q : Query) : Bool := q.outputs.any isAggregate

/-- Whether the order is the one that the rows have anyway. -/
def hasNaturalOrder (q : Query) : Bool :=
  match q.order with
  | [] => true
  | (.rowId, false) :: _ => true
  | _ => false

def start (q : Query) : Progress :=
  if q.table?.isSome then .after none else .single

def outputCells (q : Query) (scope : Scope) : Except Fault (List Datum) :=
  q.outputs.mapM fun
    | .term t => t.evaluate scope
    | _ => .ok .null

/-- The rows that satisfy the condition. -/
def matching (q : Query) (bindings : Bindings) (rows : List Row) : Except Fault (List Row) :=
  rows.filterM fun row => Term.holds ⟨bindings, some row⟩ q.condition?

/-- The value of an output over all matching rows; a plain term has that of the first
row. -/
def aggregate (bindings : Bindings) (rows : List Row) : Output → Except Fault Datum
  | .term t =>
    match rows.head? with
    | some row => t.evaluate ⟨bindings, some row⟩
    | none => .ok .null
  | .countRows => .ok (.integer (.ofNat rows.length))
  | .count t => do
    let cells ← rows.mapM fun row => t.evaluate ⟨bindings, some row⟩
    pure (.integer (.ofNat (cells.filter fun cell => !cell.isNull).length))
  | .sum t => do
    let cells ← rows.mapM fun row => t.evaluate ⟨bindings, some row⟩
    (cells.foldl Summation.add .nothing).value

def compareKeys : List (Datum × Bool) → List (Datum × Bool) → Ordering
  | (a, descending) :: as, (b, _) :: bs =>
    let order := Datum.compare a b
    (if descending then order.swap else order).then (compareKeys as bs)
  | _, _ => .eq

/-- The output rows in the order of the query; equal rows keep the order they have. -/
def sorted (q : Query) (bindings : Bindings) (rows : List Row) :
    Except Fault (List (List Datum)) := do
  let keyed ← rows.mapM fun row => do
    let scope : Scope := ⟨bindings, some row⟩
    let keys ← q.order.mapM fun (t, descending) => do pure (← t.evaluate scope, descending)
    let cells ← q.outputCells scope
    pure (keys, cells)
  pure ((keyed.mergeSort fun a b => compareKeys a.1 b.1 != .gt).map Prod.snd)

/-- The first row that satisfies the condition, with its outputs. -/
def firstMatching (q : Query) (bindings : Bindings) : List Row → Delivery
  | [] => .done
  | row :: rest =>
    let scope : Scope := ⟨bindings, some row⟩
    match Term.holds scope q.condition? with
    | .error fault => .failed fault
    | .ok false => q.firstMatching bindings rest
    | .ok true =>
      match q.outputCells scope with
      | .error fault => .failed fault
      | .ok cells => .row cells (.after (some row.id))

def ofRows : List (List Datum) → Delivery
  | [] => .done
  | cells :: rest => .row cells (.rows rest)

/-- All rows at once, for a query that has to see them all before the first. -/
def gathered (q : Query) (bindings : Bindings) (rows : List Row) :
    Except Fault (List (List Datum)) := do
  let rows ← q.matching bindings rows
  if q.hasAggregate then
    let cells ← q.outputs.mapM (aggregate bindings rows)
    pure [cells]
  else
    q.sorted bindings rows

/-- The row of a query without a table. -/
def singleRow (q : Query) (bindings : Bindings) : Except Fault (List (List Datum)) := do
  let scope : Scope := ⟨bindings, none⟩
  let holds ← Term.holds scope q.condition?
  if q.hasAggregate then
    let cells ← q.outputs.mapM (aggregate bindings (if holds then [⟨1, []⟩] else []))
    pure [cells]
  else if holds then
    pure [← q.outputCells scope]
  else
    pure []

/-- The next row of a query that stands at `progress`. -/
def deliver (q : Query) (schema : Schema) (bindings : Bindings) : Progress → Delivery
  | .rows rest => ofRows rest
  | .single =>
    match q.singleRow bindings with
    | .ok rows => ofRows rows
    | .error fault => .failed fault
  | .after (some id) =>
    q.firstMatching bindings ((q.tableRows schema).filter fun row => decide (id < row.id))
  | .after none =>
    if q.hasAggregate || !q.hasNaturalOrder then
      match q.gathered bindings (q.tableRows schema) with
      | .ok rows => ofRows rows
      | .error fault => .failed fault
    else
      q.firstMatching bindings (q.tableRows schema)

end Query

/-! ### Changes -/

/-- What a change of rows comes to: the table, how many rows changed, and the id of
the last row inserted. -/
structure Changed where
  relation : Relation
  count : Nat
  lastInserted? : Option Int64

/-- A change that comes to a fault, with the id of the last row that had gone in by
then. -/
structure Interrupted where
  fault : Fault
  lastInserted? : Option Int64

namespace Change

/-- A change that inserts no row. -/
def plain (result : Except Fault Changed) : Except Interrupted Changed :=
  result.mapError fun fault => ⟨fault, none⟩

/-- A row with the given cells at the given positions and nulls elsewhere. -/
def spread (width : Nat) (positions : List Nat) (cells : List Datum) : List Datum :=
  (positions.zip cells).foldl (fun row (position, cell) => row.set position cell)
    (List.replicate width .null)

def insertRows (bindings : Bindings) (positions : List Nat) :
    Changed → List (List Term) → Except Interrupted Changed
  | changed, [] => .ok changed
  | changed, terms :: rest =>
    let inserted : Except Fault (Int64 × Relation) := do
      let cells ← terms.mapM (Term.evaluate ⟨bindings, none⟩)
      changed.relation.insert (spread changed.relation.columns.length positions cells)
    match inserted with
    | .error fault => .error ⟨fault, changed.lastInserted?⟩
    | .ok (id, relation) =>
      insertRows bindings positions ⟨relation, changed.count + 1, some id⟩ rest

def updateRows (bindings : Bindings) (changes : List (Nat × Term)) (condition? : Option Term) :
    Changed → List Row → Except Fault Changed
  | changed, [] => .ok changed
  | changed, row :: rest => do
    let scope : Scope := ⟨bindings, some row⟩
    if ← Term.holds scope condition? then
      let cells ← changes.foldlM
        (fun cells (position, t) => do pure (List.set cells position (← t.evaluate scope)))
        row.cells
      let relation ← changed.relation.replace row cells
      updateRows bindings changes condition? ⟨relation, changed.count + 1, none⟩ rest
    else
      updateRows bindings changes condition? changed rest

def deleteRows (bindings : Bindings) (condition? : Option Term) (relation : Relation) :
    Except Fault Changed := do
  let doomed ← relation.rows.filterM fun row => Term.holds ⟨bindings, some row⟩ condition?
  let kept := relation.rows.filter fun row => !doomed.any fun other => other.id == row.id
  pure ⟨{ relation with rows := kept }, doomed.length, none⟩

end Change

end SqliteBridge.Sql
