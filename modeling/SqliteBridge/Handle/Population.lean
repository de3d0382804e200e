import SqliteBridge.Handle.Reference

/-! Objects that share one table. Each object has a reference of its own, and the
table holds the object itself as the target of its token. -/
namespace SqliteBridge.Handle

structure Population (α : Type) where
  table : Table α
  reference : α → Reference

namespace Population

variable {α : Type} [DecidableEq α]

/-- No object has a token yet. -/
def withCapacity (limit : Nat) : Population α := ⟨.withCapacity limit, fun _ => .unset⟩

def setReference (population : Population α) (object : α) (reference : Reference) :
    Population α :=
  { population with
    reference := fun other => if other = object then reference else population.reference other }

/-- Stores an object in a table on behalf of its reference. -/
def register (object : α) (table : Table α) : Except Failure Token × Table α :=
  match table.create object with
  | (.ok token, table) => (.ok token, table)
  | (.error error, table) => (.error (.refused error), table)

/-- The token of an object, created when it is first asked for. -/
def toToken (population : Population α) (object : α) : Except Failure Token × Population α :=
  match (population.reference object).adopt population.table (register object) with
  | (result, reference, table) =>
    (result, { population with table := table }.setReference object reference)

def fromToken (population : Population α) (token : Token) : Except Failure α :=
  population.table.resolve token

/-- Gives up the token of an object, if it has one. -/
def disposeToken (population : Population α) (object : α) : Population α :=
  match (population.reference object).dispose with
  | (some token, reference) =>
    { population with table := (population.table.dispose token).2 }.setReference object reference
  | (none, reference) => population.setReference object reference

def isTokenDisposed (population : Population α) (object : α) : Bool :=
  (population.reference object).isDisposed

end Population

end SqliteBridge.Handle
