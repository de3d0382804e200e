import SqliteBridge.Error
import SqliteBridge.Handle.Token

/-! A table that maps tokens to targets. Every slot counts its generations: a
disposal moves the slot to the next generation and puts it on the free list, so
that a token which outlived its disposal does not resolve to the next target of
the slot. Freed slots are used again before the table grows, the last freed
first. -/
namespace SqliteBridge.Handle

structure Slot (α : Type) where
  generation : Nat
  target? : Option α

structure Table (α : Type) where
  capacity : Nat
  slots : Array (Slot α)
  free : List Nat
  live : Nat

/-- The generation after `generation`; the last is followed by the first. -/
def nextGeneration (generation : Nat) : Nat :=
  if generation ≥ maxGeneration then 1 else generation + 1

/-- The message of every resolution of a token that is not in the table. -/
def disposedMessage : String := "tried to access stable ref after it is disposed"

namespace Table

variable {α : Type}

/-- An empty table that never holds more than `limit` slots, nor more than a
token can index. -/
def withCapacity (limit : Nat) : Table α :=
  ⟨min limit maxSlots, #[], [], 0⟩

def empty : Table α := withCapacity maxSlots

instance : Inhabited (Table α) := ⟨empty⟩

/-- A vacant slot: the one freed last, or a new one while the table may grow. -/
def vacate? (table : Table α) : Option (Nat × Table α) :=
  match table.free with
  | index :: rest => some (index, { table with free := rest })
  | [] =>
    if table.slots.size < table.capacity then
      some (table.slots.size, { table with slots := table.slots.push ⟨1, none⟩ })
    else
      none

/-- Stores `target` and gives it a fresh token. A full table is left as it was. -/
def create (table : Table α) (target : α) : Except Error Token × Table α :=
  match table.vacate? with
  | none => (.error (.exhausted table.capacity), table)
  | some (index, table) =>
    match table.slots[index]? with
    | none => (.error (.exhausted table.capacity), table)
    | some slot =>
      (.ok (.pack index slot.generation),
        { table with
          slots := table.slots.setIfInBounds index ⟨slot.generation, some target⟩
          live := table.live + 1 })

/-- The target of a token of the current generation of an occupied slot. -/
def get? (table : Table α) (token : Token) : Option α :=
  match table.slots[token.index]? with
  | some slot => if slot.generation = token.generation then slot.target? else none
  | none => none

def isDisposed (table : Table α) (token : Token) : Bool := (table.get? token).isNone

/-- The target of a token; a token that is not in the table aborts. -/
def resolve (table : Table α) (token : Token) : Except Failure α :=
  match table.get? token with
  | some target => .ok target
  | none => .error (.aborted s!"{disposedMessage} ({token.text})")

/-- Removes a token; the flag tells whether it was in the table. -/
def dispose (table : Table α) (token : Token) : Bool × Table α :=
  match table.slots[token.index]? with
  | none => (false, table)
  | some slot =>
    if slot.generation = token.generation ∧ slot.target?.isSome then
      (true,
        { table with
          slots := table.slots.setIfInBounds token.index ⟨nextGeneration slot.generation, none⟩
          free := token.index :: table.free
          live := table.live - 1 })
    else
      (false, table)

/-- Some rounds of creation and disposal, and the last token of them. -/
def rounds (target : α) : (count : Nat) → Table α → Except Error (Option Token) × Table α
  | 0, table => (.ok none, table)
  | count + 1, table =>
    match table.create target with
    | (.error error, table) => (.error error, table)
    | (.ok token, table) =>
      match rounds target count (table.dispose token).2 with
      | (.ok none, table) => (.ok (some token), table)
      | answered => answered

/-- All rounds at once: each takes the slot that the first one took. -/
def roundsAtOnce (table : Table α) (target : α) :
    (count : Nat) → Except Error (Option Token) × Table α
  | 0 => (.ok none, table)
  | count + 1 =>
    match table.create target with
    | (.error error, table) => (.error error, table)
    | (.ok token, table) =>
      let table := (table.dispose token).2
      let after (rounds : Nat) : Nat := (token.generation - 1 + rounds) % maxGeneration + 1
      (.ok (some (.pack token.index (after count))),
        { table with slots := table.slots.setIfInBounds token.index ⟨after (count + 1), none⟩ })

/-- The number of live tokens. -/
def size (table : Table α) : Nat := table.live

def isEmpty (table : Table α) : Bool := table.size == 0

end Table

end SqliteBridge.Handle
