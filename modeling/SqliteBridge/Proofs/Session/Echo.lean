import SqliteBridge.Proofs.Session.Bindings
import SqliteBridge.Proofs.Session.Canonical

/-! Values on their way back. Where the columns of a statement echo its parameters, a row shows the
values that were bound when the statement was stepped to it, in their canonical form. -/
namespace SqliteBridge

open Native (Call Datum Library)

namespace Native.Call

/-- The column that a call reads. -/
def column? : Call → Option (StatementId × Int32)
  | columnType id column => some (id, column)
  | columnInt id column => some (id, column)
  | columnInt64 id column => some (id, column)
  | columnDouble id column => some (id, column)
  | columnText id column => some (id, column)
  | columnBlob id column => some (id, column)
  | columnBytes id column => some (id, column)
  | _ => none

/-- Whether a call takes a datum as it is. Other calls convert it, and what is read later may be
what they made of it. -/
def takes (datum : Datum) : Call → Bool
  | columnInt _ _ => datum.columnType = .integer
  | columnInt64 _ _ => datum.columnType = .integer
  | columnDouble _ _ => datum.columnType = .float
  | columnText _ _ => datum.columnType = .text || datum.columnType = .null
  | columnBlob _ _ => datum.columnType = .blob || datum.columnType = .null
  | columnBytes _ _ =>
    datum.columnType = .text || datum.columnType = .blob || datum.columnType = .null
  | _ => true

/-- Whether a call that takes a datum returns what belongs to it. The bytes of a text or blob are
the first at its pointer, and for an empty blob that pointer may be null. -/
def shows (datum : Datum) : (call : Call) → call.Result → Bool
  | columnType _ _, code => code = datum.columnType.code
  | columnInt _ _, n =>
    match datum with
    | .integer m => n = m.toInt32
    | _ => true
  | columnInt64 _ _, n =>
    match datum with
    | .integer m => n = m
    | _ => true
  | columnDouble _ _, x =>
    match datum with
    | .real y => x = y
    | _ => true
  | columnText _ _, memory? =>
    match datum with
    | .text bytes => memory?.any fun memory => memory.extract 0 bytes.size = bytes
    | .null => memory?.isNone
    | _ => true
  | columnBlob _ _, memory? =>
    match datum with
    | .blob bytes =>
      bytes.size = 0 || memory?.any fun memory => memory.extract 0 bytes.size = bytes
    | .null => memory?.isNone
    | _ => true
  | columnBytes _ _, length =>
    match datum with
    | .text bytes => length.toInt = bytes.size
    | .blob bytes => length.toInt = bytes.size
    | _ => true
  | _, _ => true

end Native.Call

namespace Event

def isStep (id : StatementId) : Event → Bool
  | leaves (.step other) _ => other = id
  | _ => false

/-- A column of a statement that is read, and by which call. -/
def read? (id : StatementId) : Event → Option (Int32 × Call)
  | leaves call _ => call.column?.bind fun read => if read.1 = id then some (read.2, call) else none
  | _ => none

/-- Whether a column of a statement that is read shows its datum. -/
def shows (id : StatementId) (datum : Int32 → Datum) : Event → Bool
  | leaves call result =>
    match call.column? with
    | some (other, column) => other ≠ id || call.shows (datum column) result
    | none => true
  | _ => true

end Event

namespace Session

variable {library : Library} {conduct : Conduct library} {session before after : Session library}
  {id : StatementId} {count : Nat} {step : List Event} {α : Type}

/-- The record up to the last step of a statement. -/
def atStep (id : StatementId) (log : List Event) : List Event :=
  log.dropWhile fun event => !event.isStep id

/-- What was recorded since the last step of a statement. -/
def sinceStep (id : StatementId) (log : List Event) : List Event :=
  log.takeWhile fun event => !event.isStep id

/-- What a column shows: the parameter of the next number, as it was at the step. -/
def shownIn (id : StatementId) (column : Int32) (step : List Event) : Datum :=
  (heldIn id (column + 1) step).stored

/-- One of the columns that echo parameters is read as what it is. -/
def Takes (id : StatementId) (count : Nat) (step : List Event) (event : Event) : Prop :=
  ∀ read ∈ event.read? id, 0 ≤ read.1.toInt ∧ read.1.toInt < count ∧
    read.2.takes (shownIn id read.1 step) = true

instance (event : Event) : Decidable (Takes id count step event) :=
  inferInstanceAs (Decidable (∀ read ∈ event.read? id, 0 ≤ read.1.toInt ∧ read.1.toInt < count ∧
    read.2.takes (shownIn id read.1 step) = true))

/-- The first columns of a statement echo its parameters: on a row they show what was bound, as long
as they are read as what they are. -/
def EchoesParameters (id : StatementId) (count : Nat) (event : Event) (earlier : List Event) : Prop :=
  stateIn id earlier = some .row →
  (∀ other ∈ event :: sinceStep id earlier, Takes id count (atStep id earlier) other) →
  event.shows id (shownIn id · (atStep id earlier)) = true

instance (event : Event) (earlier : List Event) :
    Decidable (EchoesParameters id count event earlier) :=
  inferInstanceAs (Decidable (stateIn id earlier = some .row →
    (∀ other ∈ event :: sinceStep id earlier, Takes id count (atStep id earlier) other) →
    event.shows id (shownIn id · (atStep id earlier)) = true))

/-! ### On a row -/

/-- What may be on record since the step: calls that leave the row, and take the columns as they
are. -/
structure LeavesRow (id : StatementId) (count : Nat) (step : List Event) (event : Event) : Prop where
  isLater : event.isStep id = false
  newState? : event.newState? id = none
  takes : Takes id count step event

/-- A statement is on the row of a step, and since then its columns were read as what they are. -/
structure OnRow (id : StatementId) (count : Nat) (step : List Event) (session : Session library) :
    Prop where
  guard : session.CanRun id
  isStep : ∃ code earlier, step = .leaves (.step id) code :: earlier ∧ stateAfterStep code = .row
  since : ∃ reads, session.log = reads ++ step ∧ ∀ event ∈ reads, LeavesRow id count step event

theorem atStep_append {reads : List Event}
    (isStep : ∃ code earlier, step = .leaves (.step id) code :: earlier ∧ stateAfterStep code = .row)
    (since : ∀ event ∈ reads, event.isStep id = false) :
    atStep id (reads ++ step) = step ∧ sinceStep id (reads ++ step) = reads := by
  obtain ⟨code, earlier, rfl, -⟩ := isStep
  have skipped : ∀ event ∈ reads, (!event.isStep id) = true := fun event listed => by
    rw [since event listed]
    rfl
  have stops : (!Event.isStep id (.leaves (.step id) code)) = false := by
    simp [Event.isStep]
  constructor
  · rw [atStep, List.dropWhile_append_of_pos skipped, List.dropWhile_cons, stops]
    rfl
  · rw [sinceStep, List.takeWhile_append_of_pos skipped, List.takeWhile_cons, stops]
    simp

theorem stateIn_append {reads : List Event}
    (isStep : ∃ code earlier, step = .leaves (.step id) code :: earlier ∧ stateAfterStep code = .row)
    (since : ∀ event ∈ reads, event.newState? id = none) :
    stateIn id (reads ++ step) = some .row := by
  obtain ⟨code, earlier, rfl, isRow⟩ := isStep
  have silent : reads.findSome? (Event.newState? id) = none :=
    List.findSome?_eq_none_iff.mpr since
  rw [stateIn, List.findSome?_append, silent, Option.none_or, List.findSome?_cons]
  simp [Event.newState?, isRow]

theorem isUse_of_column? (id : StatementId) {call : Call} {read : StatementId × Int32}
    (reads : call.column? = some read) :
    call.isUse = true ∧ call.compiles = false ∧ ∀ result, call.LeavesHandles result ∧
      (Event.leaves call result).isStep id = false := by
  cases call <;> first | exact ⟨rfl, rfl, fun _ => ⟨trivial, rfl⟩⟩ | cases reads

/-- A call that reads a column as what it is leaves the statement on its row, and returns what the
column shows. -/
theorem OnRow.call (row : OnRow id count step session) (call : Call) {column : Int32}
    (reads : call.column? = some (id, column)) (inRange : 0 ≤ column.toInt ∧ column.toInt < count)
    {datum : Datum} (shown : shownIn id column step = datum) (takes : call.takes datum = true)
    (conduct : Conduct library) :
    ∃ result world, session.native conduct call = (result, session.called call result world) ∧
      OnRow id count step (session.called call result world) ∧
      (Throughout (EchoesParameters id count) (session.called call result world).log →
        call.shows datum result = true) := by
  subst shown
  obtain ⟨isUse, silent, leaves⟩ := isUse_of_column? id reads
  obtain ⟨result, world, -, called⟩ := native_of_compiles_eq_false (.any library) call silent conduct
    session
  obtain ⟨earlier, log, since⟩ := row.since
  have entered : LeavesRow id count step (.enters call) :=
    ⟨rfl, Event.newState?_enters isUse id, nofun⟩
  have read : Event.read? id (.leaves call result) = some (column, call) := by
    simp [Event.read?, reads]
  have left : LeavesRow id count step (.leaves call result) := by
    refine ⟨(leaves result).2, Event.newState?_leaves (leaves result).1 id, fun other told => ?_⟩
    cases read.symm.trans told
    exact ⟨inRange.1, inRange.2, takes⟩
  have since' : ∀ event ∈ .enters call :: earlier, LeavesRow id count step event :=
    List.forall_mem_cons.mpr ⟨entered, since⟩
  refine ⟨result, world, called, ⟨⟨row.guard.isLive, row.guard.isOpen⟩, row.isStep,
    .leaves call result :: .enters call :: earlier, ?_, List.forall_mem_cons.mpr ⟨left, since'⟩⟩,
    fun echoes => ?_⟩
  · rw [log_called, log]
    rfl
  · have law := echoes.1
    rw [show (session.record (.enters call)).log = (.enters call :: earlier) ++ step from
      congrArg _ log] at law
    obtain ⟨atStep, sinceStep⟩ := atStep_append row.isStep fun event listed =>
      (since' event listed).isLater
    have isRow := stateIn_append row.isStep fun event listed => (since' event listed).newState?
    have shown := law isRow
    rw [atStep, sinceStep] at shown
    have shown := shown fun event listed => by
      obtain rfl | listed := List.mem_cons.mp listed
      · exact left.takes
      · exact (since' event listed).takes
    simpa [Event.shows, reads] using shown

/-! ### Readings -/

/-- What an operation that reads comes to, and that it leaves the statement on its row. -/
def ReadsAs (id : StatementId) (count : Nat) (step : List Event) (value : α)
    (outcome : α × Session library) : Prop :=
  Throughout (EchoesParameters id count) outcome.2.log →
    outcome.1 = value ∧ OnRow id count step outcome.2

section Columns

variable {column : Int32} {datum : Datum}

theorem OnRow.readText (row : OnRow id count step session)
    (inRange : 0 ≤ column.toInt ∧ column.toInt < count) (shown : shownIn id column step = datum)
    (suits : datum.suits .text = true) (conduct : Conduct library) :
    ReadsAs id count step datum.text? (session.readText conduct id column) := by
  have takes : (Call.columnText id column).takes datum = true ∧
      (Call.columnBytes id column).takes datum = true := by
    cases datum <;> first | exact ⟨rfl, rfl⟩ | cases suits
  obtain ⟨memory?, world, called, row, shows⟩ :=
    row.call (.columnText id column) rfl inRange shown takes.1 conduct
  obtain ⟨length, later, sized, row', measures⟩ :=
    row.call (.columnBytes id column) rfl inRange shown takes.2 conduct
  unfold Session.readText
  simp only [called]
  cases memory? with
  | none =>
    intro echoes
    have told := shows echoes
    refine ⟨?_, row⟩
    cases datum <;> first | rfl | cases told
  | some memory =>
    simp only [sized]
    intro echoes
    have told := shows (echoes.suffix ⟨[_, _], rfl⟩)
    have measured := measures echoes
    refine ⟨?_, row'⟩
    cases datum with
    | text bytes =>
      have size : length.toInt = bytes.size := of_decide_eq_true measured
      have content : memory.extract 0 bytes.size = bytes := of_decide_eq_true told
      rw [size, Int.toNat_natCast, content]
      rfl
    | null => cases told
    | integer | real | blob => cases suits

theorem OnRow.readBlob (row : OnRow id count step session)
    (inRange : 0 ≤ column.toInt ∧ column.toInt < count) (shown : shownIn id column step = datum)
    (suits : datum.suits .blob = true) (conduct : Conduct library) :
    ReadsAs id count step datum.bytes? (session.readBlob conduct id column) := by
  have takes : (Call.columnBlob id column).takes datum = true ∧
      (Call.columnBytes id column).takes datum = true := by
    cases datum <;> first | exact ⟨rfl, rfl⟩ | cases suits
  obtain ⟨memory?, world, called, row, shows⟩ :=
    row.call (.columnBlob id column) rfl inRange shown takes.1 conduct
  obtain ⟨length, later, sized, row', measures⟩ :=
    row.call (.columnBytes id column) rfl inRange shown takes.2 conduct
  unfold Session.readBlob
  simp only [called, sized]
  cases memory? with
  | none =>
    intro echoes
    have told := shows (echoes.suffix ⟨[_, _], rfl⟩)
    refine ⟨?_, row'⟩
    cases datum with
    | blob bytes =>
      have isEmpty : bytes.size = 0 := by simpa [Call.shows] using told
      exact (if_pos isEmpty).symm
    | null => rfl
    | integer | real | text => cases suits
  | some memory =>
    dsimp only
    split <;> intro echoes
    · rename_i isEmpty
      have measured := measures echoes
      refine ⟨?_, row'⟩
      cases datum with
      | blob bytes =>
        have size : length.toInt = bytes.size := of_decide_eq_true measured
        have isEmpty : bytes.size = 0 := by
          rw [Int32.le_iff_toInt_le, size] at isEmpty
          exact Int.ofNat_eq_zero.mp (Int.le_antisymm isEmpty (Int.natCast_nonneg _))
        exact (if_pos isEmpty).symm
      | null => rfl
      | integer | real | text => cases suits
    · rename_i isFull
      have told := shows (echoes.suffix ⟨[_, _], rfl⟩)
      have measured := measures echoes
      refine ⟨?_, row'⟩
      cases datum with
      | blob bytes =>
        have size : length.toInt = bytes.size := of_decide_eq_true measured
        have isFull : bytes.size ≠ 0 := by
          intro isEmpty
          rw [Int32.le_iff_toInt_le, size, isEmpty] at isFull
          exact isFull (Int.le_refl 0)
        have content : memory.extract 0 bytes.size = bytes := by
          simpa [Call.shows, isFull] using told
        rw [size, Int.toNat_natCast, content]
        exact (if_neg isFull).symm
      | null => cases told
      | integer | real | text => cases suits

theorem log_suffix_native (conduct : Conduct library) (session : Session library) {call : Call}
    (silent : call.compiles = false) : session.log <:+ (session.native conduct call).2.log := by
  obtain ⟨result, world, -, called⟩ :=
    native_of_compiles_eq_false (.any library) call silent conduct session
  rw [called]
  exact ⟨[_, _], rfl⟩

theorem log_suffix_readText (conduct : Conduct library) (session : Session library)
    (id : StatementId) (column : Int32) :
    session.log <:+ (session.readText conduct id column).2.log := by
  have read : session.log <:+ (session.native conduct (.columnText id column)).2.log :=
    log_suffix_native conduct session rfl
  unfold Session.readText
  dsimp only
  split
  · exact read
  · exact read.trans (log_suffix_native conduct _ rfl)

theorem log_suffix_readBlob (conduct : Conduct library) (session : Session library)
    (id : StatementId) (column : Int32) :
    session.log <:+ (session.readBlob conduct id column).2.log := by
  have read : session.log <:+ ((session.native conduct (.columnBlob id column)).2.native conduct
      (.columnBytes id column)).2.log :=
    (log_suffix_native conduct session rfl).trans (log_suffix_native conduct _ rfl)
  unfold Session.readBlob
  dsimp only
  split
  · exact read
  · split
    · exact read
    · exact read

theorem OnRow.readValue (row : OnRow id count step session)
    (inRange : 0 ≤ column.toInt ∧ column.toInt < count) (shown : shownIn id column step = datum)
    (conduct : Conduct library) :
    ReadsAs id count step datum.toValue (session.readValue conduct id column) := by
  obtain ⟨code, world, called, row, shows⟩ :=
    row.call (.columnType id column) rfl inRange shown rfl conduct
  intro echoes
  -- The call for the class is on record, so the branch is that of the class.
  have suffix : (session.called (.columnType id column) code world).log <:+
      (session.readValue conduct id column).2.log := by
    unfold Session.readValue
    simp only [called]
    split
    · exact log_suffix_native conduct _ rfl
    · exact log_suffix_native conduct _ rfl
    · exact log_suffix_readText conduct _ id column
    · exact log_suffix_readBlob conduct _ id column
    · exact List.suffix_refl _
  have typed : ColumnType.ofCode code = datum.columnType := by
    have told : code = datum.columnType.code := of_decide_eq_true (shows (echoes.suffix suffix))
    rw [told, ColumnType.ofCode_code]
  unfold Session.readValue at echoes ⊢
  simp only [called, typed] at echoes ⊢
  cases datum with
  | null => exact ⟨rfl, row⟩
  | integer n =>
    obtain ⟨m, later, read, row, shows⟩ :=
      row.call (.columnInt64 id column) rfl inRange shown rfl conduct
    simp only [Datum.columnType, read] at echoes ⊢
    have told : m = n := of_decide_eq_true (shows echoes)
    exact ⟨congrArg integerValue told, row⟩
  | real x =>
    obtain ⟨y, later, read, row, shows⟩ :=
      row.call (.columnDouble id column) rfl inRange shown rfl conduct
    simp only [Datum.columnType, read] at echoes ⊢
    have told : y = x := of_decide_eq_true (shows echoes)
    exact ⟨congrArg Value.double told, row⟩
  | text bytes =>
    obtain ⟨text, row⟩ := row.readText inRange shown rfl conduct echoes
    exact ⟨congrArg (fun s? : Option String => s?.elim Value.null Value.text) text, row⟩
  | blob bytes =>
    obtain ⟨blob, row⟩ := row.readBlob inRange shown rfl conduct echoes
    exact ⟨(congrArg (fun bytes? : Option ByteArray => Value.blob (bytes?.getD .empty)) blob).trans
      (congrArg Value.blob (Datum.getD_bytes? bytes)), row⟩

theorem OnRow.readCell (row : OnRow id count step session)
    (inRange : 0 ≤ column.toInt ∧ column.toInt < count) (shown : shownIn id column step = datum)
    (reading : Reading) (suits : datum.suits reading = true) (conduct : Conduct library) :
    ReadsAs id count step (datum.cell reading) (session.readCell conduct id column reading) := by
  cases reading with
  | columnType =>
    obtain ⟨code, world, called, row, shows⟩ :=
      row.call (.columnType id column) rfl inRange shown rfl conduct
    unfold Session.readCell
    simp only [called]
    intro echoes
    have told : code = datum.columnType.code := of_decide_eq_true (shows echoes)
    exact ⟨congrArg Cell.columnType (by rw [told, ColumnType.ofCode_code]), row⟩
  | isNull =>
    obtain ⟨code, world, called, row, shows⟩ :=
      row.call (.columnType id column) rfl inRange shown rfl conduct
    unfold Session.readCell
    simp only [called]
    intro echoes
    have told : code = datum.columnType.code := of_decide_eq_true (shows echoes)
    exact ⟨congrArg Cell.isNull (by rw [told, ColumnType.ofCode_code]), row⟩
  | int =>
    cases datum with
    | integer n =>
      obtain ⟨m, world, called, row, shows⟩ :=
        row.call (.columnInt id column) rfl inRange shown rfl conduct
      unfold Session.readCell
      simp only [called]
      intro echoes
      exact ⟨congrArg Cell.int (of_decide_eq_true (shows echoes)), row⟩
    | null | real | text | blob => cases suits
  | long =>
    cases datum with
    | integer n =>
      obtain ⟨m, world, called, row, shows⟩ :=
        row.call (.columnInt64 id column) rfl inRange shown rfl conduct
      unfold Session.readCell
      simp only [called]
      intro echoes
      exact ⟨congrArg Cell.long (of_decide_eq_true (shows echoes)), row⟩
    | null | real | text | blob => cases suits
  | double =>
    cases datum with
    | real x =>
      obtain ⟨y, world, called, row, shows⟩ :=
        row.call (.columnDouble id column) rfl inRange shown rfl conduct
      unfold Session.readCell
      simp only [called]
      intro echoes
      exact ⟨congrArg Cell.double (of_decide_eq_true (shows echoes)), row⟩
    | null | integer | text | blob => cases suits
  | text =>
    intro echoes
    obtain ⟨text, row⟩ := row.readText inRange shown suits conduct echoes
    exact ⟨congrArg Cell.text text, row⟩
  | blob =>
    intro echoes
    obtain ⟨blob, row⟩ := row.readBlob inRange shown suits conduct echoes
    exact ⟨congrArg Cell.blob blob, row⟩
  | value =>
    intro echoes
    obtain ⟨value, row⟩ := row.readValue inRange shown conduct echoes
    exact ⟨congrArg Cell.value value, row⟩

theorem OnRow.reads (row : OnRow id count step session)
    (inRange : 0 ≤ column.toInt ∧ column.toInt < count) (shown : shownIn id column step = datum)
    (reading : Reading) (suits : datum.suits reading = true) (conduct : Conduct library) :
    ReadsAs id count step (.ok (datum.cell reading)) (session.column conduct id reading column) := by
  obtain ⟨statement, -, -, passed⟩ := onStatement_of_canRun row.guard
  rw [Session.column, passed]
  intro echoes
  obtain ⟨cell, row⟩ := row.readCell inRange shown reading suits conduct echoes
  exact ⟨congrArg Except.ok cell, row⟩

end Columns

/-! ### The round trip -/

/-- Values that were all taken are held in order. -/
theorem boundFrom_of_ok (guard : session.CanRun id) {number : Nat} (positive : 0 < number)
    {values : List Value} (taken : (session.bindFrom conduct id number values).1 = .ok ()) :
    BoundFrom id (number + values.length - 1) number values session
      (session.bindFrom conduct id number values) := by
  induction values generalizing session number with
  | nil =>
    refine ⟨iff_of_true rfl ?_, fun i listed => absurd listed (Nat.not_lt_zero i), fun _ _ => rfl,
      fun more => ?_⟩
    · rw [List.length_nil]
      omega
    · rw [List.length_nil] at more
      omega
  | cons value values ih =>
    by_cases inRange : (number : Int) ≤ Int32.maxValue.toInt
    · rw [bindFrom_cons conduct session id inRange] at taken ⊢
      have small : number < 2147483648 := by
        rw [show Int32.maxValue.toInt = 2147483647 from rfl] at inRange
        omega
      by_cases fits : maxByteCount < value.datum.byteCount
      · obtain ⟨statement, -, bound⟩ :=
          bind_oversized conduct guard (.ofNat number) (.value value) fits
        rw [bound] at taken
        cases taken
      · obtain ⟨statement, code, world, -, bound⟩ :=
          bind_eq conduct guard (.ofNat number) (Nat.le_of_not_lt fits)
        rw [bound, check] at taken ⊢
        by_cases success : code = 0
        · subst success
          simp only [if_true] at taken ⊢
          have guard' : (session.handed id (.ofNat number) 0 value world).CanRun id :=
            ⟨guard.isLive, guard.isOpen⟩
          have later := ih guard' (Nat.succ_pos number) taken
          have same : number + 1 + values.length - 1 = number + (value :: values).length - 1 := by
            rw [List.length_cons]
            omega
          rw [same] at later
          exact .cons small (by rw [List.length_cons]; omega) later
        · simp only [if_neg success] at taken
          cases taken
    · rw [bindFrom, if_pos (Int.not_le.mp inRange)] at taken
      cases taken

/-- Values are bound in order, and the statement is stepped to a row. -/
def Trip (conduct : Conduct library) (session : Session library) (id : StatementId)
    (values : List Value) (stepped : Session library) : Prop :=
  ∃ bound code, session.bindValues conduct id values = (.ok (), bound) ∧
    bound.step conduct id = (.ok code, stepped) ∧ code.primary = .row

/-- A step that succeeds was made in a passage, which left the statement as it was. -/
theorem Keeps.step_ok (keeps : Keeps conduct (fun _ => True) id.connection) {code : ResultCode}
    {stepped : Session library} (ran : session.step conduct id = (.ok code, stepped)) :
    session.CanRun id ∧ stepped.CanRun id ∧ ∃ world paused,
      Passage (.any library) (fun _ => True) (.step id) session paused world ∧
      stepped = (paused.returned (.step id) code.value world).setState id
        (stateAfterStep code.value) := by
  by_cases guard : session.CanRun id
  · have careful : Careful (.any library) (fun _ => True) conduct id.connection :=
      keeps.careful (.any library) ⟨.releaseStatement id, trivial, rfl⟩
    obtain ⟨statement, value, world, paused, -, passage, step⟩ := careful.step_eq guard
    rw [step] at ran
    split at ran
    · cases ran
    · cases ran
      have guard' : paused.CanRun id := guard.kept passage.same
      refine ⟨guard, ⟨?_, ?_⟩, world, paused, passage, rfl⟩
      · exact isFinalized_eq_false_iff_state?.mpr ⟨_, state?_setState_self guard'.isLive _,
          stateAfterStep_ne_finalized value⟩
      · rw [setState, isClosed_updateStatement]
        exact guard'.isOpen
  · obtain ⟨message, refused⟩ := step_of_not_canRun conduct guard
    rw [refused] at ran
    cases ran

theorem onRow_of_step (keeps : Keeps conduct (fun _ => True) id.connection) {code : ResultCode}
    {stepped : Session library} (ran : session.step conduct id = (.ok code, stepped))
    (isRow : code.primary = .row) :
    OnRow id count stepped.log stepped ∧ session.CanRun id ∧
      ∀ number, heldIn id number stepped.log = heldIn id number session.log := by
  obtain ⟨guard, guard', world, paused, passage, rfl⟩ := keeps.step_ok ran
  have row : stateAfterStep code.value = .row := stateAfterStep_eq_row_iff.mpr isRow
  refine ⟨⟨guard', ⟨code.value, paused.log, rfl, row⟩, [], rfl, nofun⟩, guard, fun number => ?_⟩
  have unheard := passage.interlude.findSome?_eq (lt_length_of_isClosed guard.isOpen)
    fun event datum (told : event.held? id number = some datum) => Event.connection_of_held? told
  exact congrArg (fun found : Option Datum => found.getD .null) unheard

/-- The columns of a statement are read one after the other. -/
def readAll (conduct : Conduct library) (id : StatementId) (reads : List (Reading × Nat))
    (session : Session library) : Session library :=
  reads.foldl (fun session read => (session.column conduct id read.1 (.ofNat read.2)).2) session

theorem evolves_readAll (keeps : Keeps conduct (fun _ => True) id.connection)
    (reads : List (Reading × Nat)) (session : Session library) :
    Evolves (fun _ => True) session (readAll conduct id reads session) := by
  induction reads generalizing session with
  | nil => exact .rest
  | cons read reads ih =>
    exact (Evolves.single (.perform (.column id read.1 (.ofNat read.2))) rfl trivial keeps
      session).trans (ih _)

theorem OnRow.readAll (keeps : Keeps conduct (fun _ => True) id.connection)
    (row : OnRow id count step session) {reads : List (Reading × Nat)}
    (suit : ∀ read ∈ reads, (0 ≤ (Int32.ofNat read.2).toInt ∧ (Int32.ofNat read.2).toInt < count) ∧
      (shownIn id (.ofNat read.2) step).suits read.1 = true)
    (echoes : Throughout (EchoesParameters id count) (readAll conduct id reads session).log) :
    OnRow id count step (readAll conduct id reads session) := by
  induction reads generalizing session with
  | nil => exact row
  | cons read reads ih =>
    obtain ⟨⟨inRange, suits⟩, suit⟩ := List.forall_mem_cons.mp suit
    have later := (evolves_readAll keeps reads (session.column conduct id read.1
      (.ofNat read.2)).2).path (.any library)
    obtain ⟨-, row⟩ := row.reads inRange rfl read.1 suits conduct (echoes.suffix later.log_suffix)
    exact ih row suit echoes

/-- A column that echoes a parameter reads as the canonical form of the value that was bound for
it. -/
def ReadsBack (count : Nat) (values : List Value) (read : Reading × Nat) (cell : Cell) : Prop :=
  read.2 < count ∧ ∃ value ∈ values[read.2]?, value.canonical.cell? read.1 = some cell

instance (values : List Value) (read : Reading × Nat) (cell : Cell) :
    Decidable (ReadsBack count values read cell) :=
  inferInstanceAs (Decidable (read.2 < count ∧ ∃ value ∈ values[read.2]?, _))

/-- Values come back from the row in canonical form, whatever is read before. -/
def Returns (conduct : Conduct library) (id : StatementId) (count : Nat) (values : List Value)
    (stepped : Session library) : Prop :=
  ∀ (reads : List (Reading × Nat)) (read : Reading × Nat) (cell : Cell),
    (∀ earlier ∈ reads, ∃ cell, ReadsBack count values earlier cell) → ReadsBack count values read cell →
    let outcome := (readAll conduct id reads stepped).column conduct id read.1 (.ofNat read.2)
    Throughout (EchoesParameters id count) outcome.2.log → outcome.1 = .ok cell

/-- The numbers of parameters are 32-bit integers. -/
theorem number_of_bindFrom {number : Nat} {values : List Value}
    (taken : (session.bindFrom conduct id number values).1 = .ok ()) :
    ∀ i < values.length, number + i < 2147483648 := by
  induction values generalizing session number with
  | nil => exact fun i listed => absurd listed (Nat.not_lt_zero i)
  | cons value values ih =>
    by_cases inRange : (number : Int) ≤ Int32.maxValue.toInt
    · rw [bindFrom_cons conduct session id inRange] at taken
      split at taken
      · cases taken
      · rw [show Int32.maxValue.toInt = 2147483647 from rfl] at inRange
        rintro (_ | i) listed
        · omega
        · have later := ih taken i (Nat.lt_of_succ_lt_succ listed)
          omega
    · rw [bindFrom, if_pos (Int.not_le.mp inRange)] at taken
      cases taken

theorem Trip.onRow {values : List Value} {stepped : Session library}
    (trip : Trip conduct session id values stepped)
    (keeps : Keeps conduct (fun _ => True) id.connection) (count : Nat) :
    session.CanRun id ∧ OnRow id count stepped.log stepped ∧ ∀ i value, values[i]? = some value →
      i < 2147483647 ∧ shownIn id (.ofNat i) stepped.log = value.datum.stored := by
  obtain ⟨bound, code, made, ran, isRow⟩ := trip
  obtain ⟨row, guard, held⟩ : OnRow id count stepped.log stepped ∧ _ :=
    onRow_of_step keeps ran isRow
  have taken : (session.bindFrom conduct id 1 values).1 = .ok () := congrArg Prod.fst made
  have after : (session.bindFrom conduct id 1 values).2 = bound := congrArg Prod.snd made
  have guard' : session.CanRun id :=
    (after ▸ quiet_bindFrom conduct session id 1 values).symm.canRun guard
  refine ⟨guard', row, fun i value given => ?_⟩
  have bindings := boundFrom_of_ok guard' Nat.one_pos taken
  obtain ⟨listed, rfl⟩ := List.getElem?_eq_some_iff.mp given
  have small := number_of_bindFrom taken i listed
  have next : Int32.ofNat i + 1 = Int32.ofNat (1 + i) := by
    rw [Nat.add_comm, Int32.ofNat_add]
    rfl
  refine ⟨by omega, ?_⟩
  rw [shownIn, held, next, ← after, bindings.given i listed (by omega)]

/-- Values that were bound in order and stepped to a row come back in canonical form. -/
theorem Trip.returns (keeps : Keeps conduct (fun _ => True) id.connection) {values : List Value}
    {stepped : Session library} (trip : Trip conduct session id values stepped) (count : Nat) :
    Returns conduct id count values stepped := by
  obtain ⟨-, row, shown⟩ := trip.onRow keeps count
  have suits {read : Reading × Nat} {cell : Cell} (tells : ReadsBack count values read cell) :
      (0 ≤ (Int32.ofNat read.2).toInt ∧ (Int32.ofNat read.2).toInt < count) ∧
        ∃ datum, shownIn id (.ofNat read.2) stepped.log = datum ∧ datum.suits read.1 = true ∧
          datum.cell read.1 = cell := by
    obtain ⟨isColumn, value, given, told⟩ := tells
    obtain ⟨small, shown⟩ := shown read.2 value given
    have toInt : (Int32.ofNat read.2).toInt = read.2 := Int32.toInt_ofNat_of_lt (by omega)
    rw [← Datum.toValue_stored] at told
    exact ⟨by omega, _, shown, Datum.suits_of_cell? told, Datum.cell_eq_of_cell? told⟩
  intro reads read cell earlier tells outcome echoes
  have before := ((Evolves.single (.perform (.column id read.1 (.ofNat read.2))) rfl trivial keeps
    (readAll conduct id reads stepped)).path (.any library)).log_suffix
  have row : OnRow id count stepped.log (readAll conduct id reads stepped) := by
    refine row.readAll keeps (fun read listed => ?_) (echoes.suffix before)
    obtain ⟨cell, tells⟩ := earlier read listed
    obtain ⟨inRange, datum, shown, suits, -⟩ := suits tells
    exact ⟨inRange, shown ▸ suits⟩
  obtain ⟨inRange, datum, shown, suits, reads⟩ := suits tells
  exact reads ▸ (row.reads inRange shown read.1 suits conduct echoes).1

end Session

end SqliteBridge
