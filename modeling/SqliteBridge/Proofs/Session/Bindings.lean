import SqliteBridge.Native.Scripted
import SqliteBridge.Proofs.Session.Parameters
import SqliteBridge.Proofs.Session.Reporting

/-! The values of parameters. A parameter holds what was handed over for it last, if that was
taken. Values that are bound in a row go to the parameters in order, and the first that has no
parameter ends that with an error of range. They stay where they are when the statement is
reset. -/
namespace SqliteBridge

open Native (Call Library)

namespace Event

/-- What is handed over for a parameter of a statement: its number, the datum, and the code that is
returned. -/
def given? (id : StatementId) : Event → Option (Int32 × Native.Datum × Int32)
  | leaves (.bindNull other number) code =>
    if other = id then some (number, .null, code) else none
  | leaves (.bindInt other number n) code =>
    if other = id then some (number, .integer n.toInt64, code) else none
  | leaves (.bindInt64 other number n) code =>
    if other = id then some (number, .integer n, code) else none
  | leaves (.bindDouble other number x) code =>
    if other = id then some (number, .real x, code) else none
  | leaves (.bindText other number bytes) code =>
    if other = id then some (number, .text bytes, code) else none
  | leaves (.bindBlob other number bytes) code =>
    if other = id then some (number, .blob bytes, code) else none
  | _ => none

/-- How many parameters a statement is said to have. -/
def parameterCount? (id : StatementId) : Event → Option Int32
  | leaves (.bindParameterCount other) count => if other = id then some count else none
  | _ => none

/-- What a parameter holds after an event that changes it. A new statement holds nulls, and so does
one whose bindings are cleared. -/
def held? (id : StatementId) (number : Int32) (event : Event) : Option Native.Datum :=
  match event with
  | leaves (.prepareV2 made _) preparation =>
    if made = id ∧ preparation.code = 0 ∧ preparation.isStatement = true then some .null else none
  | leaves (.clearBindings other) code => if other = id ∧ code = 0 then some .null else none
  | event => (event.given? id).bind fun given =>
    if given.1 = number ∧ given.2.2 = 0 then some given.2.1 else none

theorem given?_handed (id : StatementId) (number code : Int32) (v : Value) :
    (v.handed id number code).given? id = some (number, v.datum, code) := by
  cases v <;> exact if_pos rfl

theorem held?_handed (id : StatementId) (number code : Int32) (v : Value) (other : Int32) :
    (v.handed id number code).held? id other =
      if number = other ∧ code = 0 then some v.datum else none := by
  cases v <;> simp [Value.handed, held?, given?, Value.datum]

/-- What tells of a parameter is a call about the statement. -/
theorem connection_of_given? {id : StatementId} {event : Event}
    {given : Int32 × Native.Datum × Int32} (tells : event.given? id = some given) :
    event.connection = id.connection ∧ event.isConsultation = false := by
  unfold given? at tells
  split at tells <;>
    first
      | rw [Option.ite_none_right_eq_some] at tells
        exact ⟨congrArg StatementId.connection tells.1, rfl⟩
      | cases tells

theorem connection_of_held? {id : StatementId} {number : Int32} {event : Event}
    {datum : Native.Datum} (tells : event.held? id number = some datum) :
    event.connection = id.connection ∧ event.isConsultation = false := by
  unfold held? at tells
  split at tells
  · rw [Option.ite_none_right_eq_some] at tells
    exact ⟨congrArg StatementId.connection tells.1.1, rfl⟩
  · rw [Option.ite_none_right_eq_some] at tells
    exact ⟨congrArg StatementId.connection tells.1.1, rfl⟩
  · obtain ⟨given, told, -⟩ := Option.bind_eq_some_iff.mp tells
    exact connection_of_given? told

end Event

namespace Session

variable {library : Library} {motion : Motion library} {allowed : Act → Prop}
  {conduct : Conduct library} {session before after : Session library} {id : StatementId}
  {count limit : Nat}

/-- What a parameter holds, by its number. -/
def heldIn (id : StatementId) (number : Int32) (log : List Event) : Native.Datum :=
  (log.findSome? (Event.held? id number)).getD .null

/-- A statement has so many parameters: while it has not run since it was made or reset, those
numbers are taken and others are out of range, up to a size in bytes. -/
def TakesParameters (id : StatementId) (count limit : Nat) (event : Event) (earlier : List Event) :
    Prop :=
  (∀ told ∈ event.parameterCount? id, told.toInt = count) ∧
  ∀ given ∈ event.given? id, stateIn id earlier = some .prepared →
    given.2.1.byteCount ≤ limit →
    given.2.2 = if 1 ≤ given.1.toInt ∧ given.1.toInt ≤ count then 0 else 25

instance (event : Event) (earlier : List Event) :
    Decidable (TakesParameters id count limit event earlier) :=
  inferInstanceAs (Decidable
    ((∀ told ∈ event.parameterCount? id, told.toInt = count) ∧
    ∀ given ∈ event.given? id, stateIn id earlier = some .prepared →
      given.2.1.byteCount ≤ limit →
      given.2.2 = if 1 ≤ given.1.toInt ∧ given.1.toInt ≤ count then 0 else 25))

theorem heldIn_cons (number : Int32) (event : Event) (log : List Event) :
    heldIn id number (event :: log) = (event.held? id number).getD (heldIn id number log) := by
  rw [heldIn, List.findSome?_cons]
  cases event.held? id number <;> rfl

theorem heldIn_fail {α : Type} (conduct : Conduct library) (session : Session library)
    (connection : Nat) (sql : String) (code number : Int32) :
    heldIn id number (session.fail conduct connection sql code : Except Error α × _).2.log =
      heldIn id number session.log := by
  obtain kept | ⟨bytes?, world, -, told⟩ :=
    fail_cases (α := α) (.any library) conduct session connection sql code
  · rw [kept]
  · rw [told]
    rfl

/-- What parameters hold after a value was handed over. -/
theorem heldIn_handed (session : Session library) (id : StatementId) (number code : Int32) (v : Value)
    (world : library.World) (other : Int32) :
    heldIn id other (session.handed id number code v world).log =
      if number = other ∧ code = 0 then v.datum else heldIn id other session.log := by
  have entered : (Event.enters (v.call id number)).held? id other = none := by
    cases v <;> rfl
  rw [handed, heldIn_cons, heldIn_cons, entered, Event.held?_handed]
  split <;> rfl

theorem stateIn_handed (session : Session library) (number code : Int32) (v : Value)
    (world : library.World) (other : StatementId) :
    stateIn other (session.handed id number code v world).log = stateIn other session.log := by
  rw [handed, stateIn_cons, stateIn_cons]
  cases v <;> rfl

/-- A value for a parameter of a prepared statement is taken if there is such a parameter. -/
theorem handed_code {number code : Int32} {v : Value} {world : library.World}
    (takes : Throughout (TakesParameters id count limit)
      (session.handed id number code v world).log)
    (prepared : stateIn id session.log = some .prepared) (fits : v.datum.byteCount ≤ limit) :
    code = if 1 ≤ number.toInt ∧ number.toInt ≤ count then 0 else 25 := by
  have entered : stateIn id (.enters (v.call id number) :: session.log) = some .prepared := by
    rw [stateIn_cons]
    cases v <;> exact prepared
  exact takes.1.2 _ (Event.given?_handed id number code v) entered fits

/-- What becomes of values that are bound from a number on. -/
structure BoundFrom (id : StatementId) (count number : Nat) (values : List Value)
    (session : Session library) (outcome : Except Error Unit × Session library) : Prop where
  ok_iff : outcome.1 = .ok () ↔ number + values.length ≤ count + 1
  given (i : Nat) (listed : i < values.length) (isParameter : number + i ≤ count) :
    heldIn id (.ofNat (number + i)) outcome.2.log = values[i].datum
  kept (other : Int32)
    (apart : other.toInt < number ∨ number + values.length ≤ other.toInt ∨ count < other.toInt) :
    heldIn id other outcome.2.log = heldIn id other session.log
  surplus (more : count + 1 < number + values.length) :
    ∃ cause statement, outcome.1 = .error (.status cause) ∧ cause.code = .range ∧
      session.statement? id = some statement ∧ cause.sql? = some statement.sql

theorem bindFrom_cons (conduct : Conduct library) (session : Session library) (id : StatementId)
    {number : Nat} (inRange : number ≤ Int32.maxValue.toInt) (value : Value) (values : List Value) :
    session.bindFrom conduct id number (value :: values) =
      match session.bind conduct id (.ofNat number) (.value value) with
      | (.error error, session) => (.error error, session)
      | (.ok (), session) => session.bindFrom conduct id (number + 1) values := by
  rw [bindFrom]
  exact if_neg (Int.not_lt.mpr inRange)

/-- The first of the values was taken. -/
theorem BoundFrom.cons {number : Nat} (small : number < 2147483648) {value : Value}
    {values : List Value} {world : library.World} {outcome : Except Error Unit × Session library}
    (isParameter : number ≤ count)
    (later : BoundFrom id count (number + 1) values (session.handed id (.ofNat number) 0 value world)
      outcome) : BoundFrom id count number (value :: values) session outcome := by
  have toInt : (Int32.ofNat number).toInt = number := Int32.toInt_ofNat_of_lt small
  refine ⟨?_, fun i listed inRange => ?_, fun other apart => ?_, fun more => ?_⟩
  · rw [later.ok_iff, List.length_cons]
    omega
  · cases i with
    | zero =>
      rw [later.kept (.ofNat (number + 0)) (.inl (by rw [Nat.add_zero, toInt]; omega)),
        heldIn_handed, if_pos ⟨rfl, rfl⟩]
      rfl
    | succ i =>
      have shifted : number + 1 + i = number + (i + 1) := by omega
      exact shifted ▸ later.given i (Nat.lt_of_succ_lt_succ listed) (shifted ▸ inRange)
  · have different : Int32.ofNat number ≠ other := by
      rintro rfl
      rw [toInt, List.length_cons] at apart
      omega
    rw [later.kept other (by rw [List.length_cons] at apart; omega), heldIn_handed,
      if_neg fun same => different same.1]
  · exact later.surplus (by rw [List.length_cons] at more; omega)

theorem boundFrom (keeps : Keeps conduct (fun _ => True) id.connection) (guard : session.CanRun id)
    (prepared : stateIn id session.log = some .prepared) (few : count < 2147483647)
    (limited : limit ≤ maxByteCount) {number : Nat} (positive : 0 < number)
    (next : number ≤ count + 1) {values : List Value}
    (fit : ∀ value ∈ values, value.datum.byteCount ≤ limit)
    (takes : Throughout (TakesParameters id count limit)
      (session.bindFrom conduct id number values).2.log) :
    BoundFrom id count number values session (session.bindFrom conduct id number values) := by
  induction values generalizing session number with
  | nil =>
    refine ⟨iff_of_true rfl (by simpa using next), fun i listed => absurd listed (Nat.not_lt_zero i),
      fun _ _ => rfl, fun more => ?_⟩
    exact absurd next (Nat.not_le_of_lt more)
  | cons value values ih =>
    obtain ⟨fits, fit⟩ := List.forall_mem_cons.mp fit
    have small : number < 2147483648 := Nat.lt_of_le_of_lt next (Nat.succ_lt_succ few)
    have toInt : (Int32.ofNat number).toInt = number := Int32.toInt_ofNat_of_lt small
    obtain ⟨statement, code, world, found, bound⟩ :=
      bind_eq conduct guard (.ofNat number) (Nat.le_trans fits limited)
    have guard' : (session.handed id (.ofNat number) code value world).CanRun id :=
      ⟨guard.isLive, guard.isOpen⟩
    have inRange : (number : Int) ≤ Int32.maxValue.toInt := by
      rw [show Int32.maxValue.toInt = 2147483647 from rfl]
      omega
    rw [bindFrom_cons conduct session id inRange, bound, check] at takes ⊢
    by_cases success : code = 0
    · subst success
      simp only [if_true] at takes ⊢
      have path := (evolves_bindFrom keeps (fun _ _ => trivial)
        (session.handed id (.ofNat number) 0 value world) (number + 1) values).path (.any library)
      have known := handed_code (takes.suffix path.log_suffix) prepared fits
      have isParameter : number ≤ count := by
        rw [toInt] at known
        split at known
        · omega
        · cases known
      exact .cons small isParameter (ih guard'
        ((stateIn_handed session _ _ value world id).trans prepared) (Nat.succ_pos number)
        (Nat.succ_le_succ isParameter) fit takes)
    · simp only [if_neg success] at takes ⊢
      have known := handed_code (takes.suffix (log_suffix_fail conduct _ id.connection statement.sql
        code)) prepared fits
      have kept (other : Int32) := (heldIn_fail (α := Unit) conduct
        (session.handed id (.ofNat number) code value world) id.connection statement.sql code
          other).trans ((heldIn_handed session id (.ofNat number) code value world other).trans
            (if_neg fun same => success same.2))
      have isSurplus : ¬number ≤ count := by
        intro isParameter
        rw [if_pos (by rw [toInt]; omega)] at known
        exact success known
      rw [if_neg (by rw [toInt]; omega)] at known
      subst known
      refine ⟨iff_of_false (fun same => by cases same) (by rw [List.length_cons]; omega),
        fun i _ inRange => ?_, fun other _ => kept other, fun _ => ?_⟩
      · exact absurd (Nat.le_trans (Nat.le_add_right number i) inRange) isSurplus
      · exact ⟨_, statement, rfl, rfl, found, rfl⟩

/-- What becomes of values that are bound to a prepared statement with so many parameters. -/
structure BoundInOrder (conduct : Conduct library) (session : Session library) (id : StatementId)
    (count : Nat) (values : List Value) (outcome : Except Error Unit × Session library) : Prop where
  ok_iff : outcome.1 = .ok () ↔ values.length ≤ count
  given (i : Nat) (listed : i < values.length) (isParameter : i < count) :
    heldIn id (.ofNat (i + 1)) outcome.2.log = values[i].datum
  kept (number : Int32)
    (apart : number.toInt < 1 ∨ values.length < number.toInt ∨ count < number.toInt) :
    heldIn id number outcome.2.log = heldIn id number session.log
  surplus (more : count < values.length) :
    ∃ cause statement, outcome.1 = .error (.status cause) ∧ cause.code = .range ∧
      session.statement? id = some statement ∧ cause.sql? = some statement.sql
  state : outcome.2.state? id = session.state? id
  /-- A later reset leaves the parameters as they are. -/
  survives (number : Int32) :
    heldIn id number (outcome.2.reset conduct id).2.log = heldIn id number outcome.2.log

theorem heldIn_reset (keeps : Keeps conduct (fun _ => True) id.connection) (number : Int32) :
    heldIn id number (session.reset conduct id).2.log = heldIn id number session.log := by
  by_cases guard : session.CanRun id
  · have careful : Careful (.any library) (fun _ => True) conduct id.connection :=
      keeps.careful (.any library) ⟨.releaseStatement id, trivial, rfl⟩
    obtain ⟨statement, code, world, paused, -, passage, reset⟩ := careful.reset_eq guard
    have unheard := passage.interlude.findSome?_eq (lt_length_of_isClosed guard.isOpen)
      fun event datum (told : event.held? id number = some datum) => Event.connection_of_held? told
    have returned : heldIn id number (paused.returned (.reset id) code world).log =
        heldIn id number session.log :=
      congrArg (fun found : Option Native.Datum => found.getD .null) unheard
    rw [reset]
    split
    · exact returned
    · unfold check
      split
      · exact returned
      · exact (heldIn_fail conduct _ id.connection statement.sql code number).trans returned
  · obtain ⟨message, refused⟩ := onStatement_of_not_canRun guard
    rw [reset, refused]
    rfl

/-- Whatever was done before, a prepared statement of an open connection takes as many values as it
has parameters, in order, and more of them end with an error of range. -/
theorem bindValues_positional (reachable : session.IsReachable)
    (keeps : Keeps conduct (fun _ => True) id.connection)
    (isOpen : session.isClosed id.connection = false)
    (prepared : session.state? id = some .prepared) (few : count < 2147483647)
    (limited : limit ≤ maxByteCount) {values : List Value}
    (fit : ∀ value ∈ values, value.datum.byteCount ≤ limit)
    (takes : Throughout (TakesParameters id count limit)
      (session.bindValues conduct id values).2.log) :
    BoundInOrder conduct session id count values (session.bindValues conduct id values) := by
  have guard : session.CanRun id :=
    ⟨isFinalized_eq_false_iff_state?.mpr ⟨.prepared, prepared, by decide⟩, isOpen⟩
  have bound : BoundFrom id count 1 values session (session.bindValues conduct id values) :=
    boundFrom keeps guard ((reachable.stateIn_eq id).trans prepared) few limited Nat.one_pos
      (Nat.le_add_left 1 count) fit takes
  refine ⟨?_, fun i listed isParameter => ?_, fun number apart => ?_, fun more => ?_, ?_,
    heldIn_reset keeps⟩
  · rw [bound.ok_iff]
    omega
  · rw [Nat.add_comm]
    exact bound.given i listed (by omega)
  · exact bound.kept number (by omega)
  · exact bound.surplus (by omega)
  · exact (quiet_bindFrom conduct session id 1 values).state? id

/-- A library in which every statement has three parameters. -/
def ternary : Library :=
  Native.scripted fun _ call =>
    let range (number : Int32) : Int32 := if 1 ≤ number.toInt ∧ number.toInt ≤ 3 then 0 else 25
    match call with
    | .bindParameterCount _ => (3 : Int32)
    | .bindNull _ number => range number
    | .bindInt _ number _ => range number
    | .bindText _ number _ => range number
    | call => call.uneventful

/-- Two values leave the third parameter alone, and a fourth has none. -/
theorem bindValues_positional_three :
    let session := (withCapacity ternary 1).runAll []
      [.perform (.openWith .inMemory), .perform (.prepare 0 "SELECT ?, ?, ?"),
        .perform (.bind ⟨0, 0⟩ 3 (.text "kept"))]
    let few : List Value := [.int 7, .null]
    let many : List Value := [.int 7, .null, .int 8, .int 9]
    BoundInOrder (.byRules []) session ⟨0, 0⟩ 3 few (session.bindValues (.byRules []) ⟨0, 0⟩ few) ∧
      heldIn ⟨0, 0⟩ 3 (session.bindValues (.byRules []) ⟨0, 0⟩ few).2.log = .text "kept".toUTF8 ∧
      BoundInOrder (.byRules []) session ⟨0, 0⟩ 3 many
        (session.bindValues (.byRules []) ⟨0, 0⟩ many) := by
  intro session few many
  have reachable : session.IsReachable := isReachable_runAll 1 [] _
  exact ⟨bindValues_positional reachable (fun _ _ _ => .rest) (by decide) (by decide) (by decide)
      (Nat.le_refl maxByteCount) (by decide) (by decide +kernel), by decide +kernel,
    bindValues_positional reachable (fun _ _ _ => .rest) (by decide) (by decide) (by decide)
      (Nat.le_refl maxByteCount) (by decide) (by decide +kernel)⟩

end Session

end SqliteBridge
