import Mathlib.Data.List.Nodup
import SqliteBridge.Proofs.Boundary.Accord

/-! Two runs of one caller. Whatever other callers do in one of them, the connections of the caller
in the one and in the other are twins, pair by pair. -/
namespace SqliteBridge.Boundary.Shared

open Books (issuedTo)
open Handle (Token)
open Native (Library)
open Session (CallsRegistered Throughout Twins)

variable {library : Library} {separation : Separation library}
  {first first' second second' : Shared library} {caller caller' subject subject' id id' : Nat}
  {added added' : Books}

/-- Connections in two sessions that cannot be told apart. They have tokens on the books, or neither
of them has, and so have their statements. -/
structure Pair (separation : Separation library) (id id' : Nat) (first second : Shared library) :
    Prop where
  twins : Twins separation id id' first.session second.session
  connectionToken : (issuedTo first.books.connectionTokens id).isSome =
    (issuedTo second.books.connectionTokens id').isSome
  statementToken (index : Nat) : (issuedTo first.books.statementTokens ⟨id, index⟩).isSome =
    (issuedTo second.books.statementTokens ⟨id', index⟩).isSome

theorem Pair.symm (pair : Pair separation id id' first second) :
    Pair separation id' id second first :=
  ⟨pair.twins.symm, pair.connectionToken.symm, fun index => (pair.statementToken index).symm⟩

theorem issuedTo_append {α : Type} [DecidableEq α] {issued later : List (Token × α)} {object : α}
    (apart : ∀ entry ∈ later, entry.2 ≠ object) :
    issuedTo (issued ++ later) object = issuedTo issued object := by
  have unlisted : later.find? (fun entry => entry.2 = object) = none :=
    List.find?_eq_none.mpr fun entry listed => by simpa using apart entry listed
  rw [issuedTo, issuedTo, List.find?_append, unlisted, Option.or_none]

theorem isSome_issuedTo_concat {α : Type} [DecidableEq α] (issued : List (Token × α)) (token : Token)
    (object other : α) : (issuedTo (issued ++ [(token, object)]) other).isSome =
      ((issuedTo issued other).isSome || decide (object = other)) := by
  rw [issuedTo, issuedTo, Option.isSome_map, Option.isSome_map, List.find?_append, Option.isSome_or]
  by_cases same : object = other <;> simp [same]

/-- Nothing is done to a connection of the pair. -/
theorem Pair.of_served (pair : Pair separation id id' first second) (kept : first.Kept)
    (served : Served separation caller subject added first first')
    (registered : Throughout CallsRegistered first'.session.log)
    (isOld : id < first.session.connections.length) (other : id ≠ subject) :
    Pair separation id id' first' second where
  twins := pair.twins.of_untouched (served.advance.untouched kept.healthy registered isOld other)
  connectionToken := by
    rw [served.books, Books.add, issuedTo_append fun entry listed same =>
      other (same.symm.trans (served.advance.about entry listed))]
    exact pair.connectionToken
  statementToken index := by
    rw [served.books, Books.add, issuedTo_append fun entry listed same => other
      ((congrArg StatementId.connection same).symm.trans (served.advance.about' entry listed))]
    exact pair.statementToken index

/-! ### The connections of a caller -/

theorem own_add (books added : Books) (caller : Nat) :
    (books.add added).own caller = books.own caller ++ added.own caller := by
  simp [Books.add, Books.own]

theorem Served.own_of_nil (served : Served separation caller subject added first first')
    (unopened : added.connections = []) (other : Nat) :
    first'.books.own other = first.books.own other := by
  rw [served.books, own_add, Books.own, Books.own, unopened]
  exact List.append_nil _

theorem Served.own_of_ne (served : Served separation caller subject added first first')
    (apart : caller ≠ caller') : first'.books.own caller' = first.books.own caller' := by
  obtain unopened | ⟨opened, -⟩ := served.opened
  · exact served.own_of_nil unopened caller'
  · rw [served.books, own_add, Books.own, Books.own, opened]
    simp [apart]

theorem Served.own_of_opened (served : Served separation caller subject added first first')
    (opened : added.connections = [(caller, subject)]) :
    first'.books.own caller = first.books.own caller ++ [subject] := by
  rw [served.books, own_add, Books.own, Books.own, opened]
  simp

theorem Kept.nodup_own (kept : first.Kept) (caller : Nat) : (first.books.own caller).Nodup :=
  (List.filter_sublist.map Prod.snd).nodup kept.nodup

theorem Kept.own_isOld (kept : first.Kept) {place : Nat}
    (own : (first.books.own caller)[place]? = some id) : id < first.session.connections.length :=
  kept.isOld (Books.mem_own_iff.mp (List.mem_of_getElem? own))

/-- A caller's line is about no connection of another. -/
theorem Served.ne_subject (served : Served separation caller subject added first first')
    (kept : first.Kept) (apart : caller ≠ caller') {place : Nat}
    (own : (first.books.own caller')[place]? = some id) : id ≠ subject := by
  rintro rfl
  obtain isOwn | isNext := served.isOwn
  · have listed := Books.mem_own_iff.mp isOwn
    have listed' := Books.mem_own_iff.mp (List.mem_of_getElem? own)
    have same := List.inj_on_of_nodup_map kept.nodup listed listed' rfl
    exact apart (congrArg Prod.fst same)
  · exact Nat.ne_of_lt (kept.own_isOld own) isNext

/-! ### Accord -/

/-- The connections of a caller in one session and in the other. -/
structure Accord (separation : Separation library) (caller : Nat) (first second : Shared library) :
    Prop where
  kept : first.Kept
  kept' : second.Kept
  length_eq : (first.books.own caller).length = (second.books.own caller).length
  pairs {place id id' : Nat} (own : (first.books.own caller)[place]? = some id)
    (own' : (second.books.own caller)[place]? = some id') : Pair separation id id' first second

theorem accord_empty (separation : Separation library) (caller limit : Nat) :
    Accord separation caller (empty library limit) (empty library limit) where
  kept := kept_empty limit
  kept' := kept_empty limit
  length_eq := rfl
  pairs own := by cases own

namespace Accord

/-- Another caller's line. -/
theorem other (accord : Accord separation caller first second) (apart : caller' ≠ caller)
    (served : Served separation caller' subject added first first')
    (registered : Throughout CallsRegistered first'.session.log) :
    Accord separation caller first' second where
  kept := accord.kept.of_served served registered
  kept' := accord.kept'
  length_eq := served.own_of_ne apart ▸ accord.length_eq
  pairs own own' := by
    rw [served.own_of_ne apart] at own
    exact (accord.pairs own own').of_served accord.kept served registered
      (accord.kept.own_isOld own) (served.ne_subject accord.kept apart own)

section Own

variable (accord : Accord separation caller first second)
  (served : Served separation caller subject added first first')
  (served' : Served separation caller subject' added' second second')
  (registered : Throughout CallsRegistered first'.session.log)
  (registered' : Throughout CallsRegistered second'.session.log)

include accord served served' registered registered'

/-- A pair that the line is not about. -/
theorem pair_of_ne {place : Nat} (own : (first.books.own caller)[place]? = some id)
    (own' : (second.books.own caller)[place]? = some id') (other : id ≠ subject)
    (other' : id' ≠ subject') : Pair separation id id' first' second' := by
  have pair := (accord.pairs own own').of_served accord.kept served registered
    (accord.kept.own_isOld own) other
  exact (pair.symm.of_served accord.kept' served' registered' (accord.kept'.own_isOld own')
    other').symm

/-- The caller's own line, about a pair or about nothing that is there. -/
theorem unopened (unopened : added.connections = []) (unopened' : added'.connections = [])
    (aligned : ∀ place : Nat, (first.books.own caller)[place]? = some subject ↔
      (second.books.own caller)[place]? = some subject')
    (pair : ∀ place : Nat, (first.books.own caller)[place]? = some subject →
      Pair separation subject subject' first' second') :
    Accord separation caller first' second' where
  kept := accord.kept.of_served served registered
  kept' := accord.kept'.of_served served' registered'
  length_eq := by
    rw [served.own_of_nil unopened, served'.own_of_nil unopened', accord.length_eq]
  pairs {place id id'} own own' := by
    rw [served.own_of_nil unopened] at own
    rw [served'.own_of_nil unopened'] at own'
    by_cases same : id = subject
    · subst same
      cases own'.symm.trans ((aligned place).mp own)
      exact pair place own
    · refine accord.pair_of_ne served served' registered registered' own own' same ?_
      rintro rfl
      exact same (Option.some.inj (own.symm.trans ((aligned place).mpr own')))

/-- A new pair. -/
theorem opened (opened : added.connections = [(caller, subject)])
    (opened' : added'.connections = [(caller, subject')])
    (pair : Pair separation subject subject' first' second') :
    Accord separation caller first' second' where
  kept := accord.kept.of_served served registered
  kept' := accord.kept'.of_served served' registered'
  length_eq := by
    rw [served.own_of_opened opened, served'.own_of_opened opened', List.length_append,
      List.length_append, accord.length_eq]
    rfl
  pairs {place id id'} own own' := by
    rw [served.own_of_opened opened] at own
    rw [served'.own_of_opened opened'] at own'
    obtain isOld | isNew := Nat.lt_or_ge place (first.books.own caller).length
    · rw [List.getElem?_append_left isOld] at own
      rw [List.getElem?_append_left (accord.length_eq ▸ isOld)] at own'
      have isNext : subject = first.session.connections.length := by
        obtain unopened | ⟨-, isNext, -⟩ := served.opened
        · cases unopened.symm.trans opened
        · exact isNext
      have isNext' : subject' = second.session.connections.length := by
        obtain unopened | ⟨-, isNext, -⟩ := served'.opened
        · cases unopened.symm.trans opened'
        · exact isNext
      exact accord.pair_of_ne served served' registered registered' own own'
        (isNext ▸ Nat.ne_of_lt (accord.kept.own_isOld own))
        (isNext' ▸ Nat.ne_of_lt (accord.kept'.own_isOld own'))
    · rw [List.getElem?_append_right isNew] at own
      rw [List.getElem?_append_right (accord.length_eq ▸ isNew)] at own'
      rw [List.getElem?_singleton] at own own'
      split at own
      · split at own'
        · cases own
          cases own'
          exact pair
        · cases own'
      · cases own

/-- The caller's own line about a pair. -/
theorem of_pair (unopened : added.connections = []) (unopened' : added'.connections = [])
    {place : Nat} (own : (first.books.own caller)[place]? = some subject)
    (own' : (second.books.own caller)[place]? = some subject')
    (pair : Pair separation subject subject' first' second') :
    Accord separation caller first' second' := by
  refine accord.unopened served served' registered registered' unopened unopened' (fun other => ?_)
    fun _ _ => pair
  constructor
  · intro found
    have isIn := (List.getElem?_eq_some_iff.mp found).1
    obtain rfl := (List.getElem?_inj isIn (accord.kept.nodup_own caller)).mp (found.trans own.symm)
    exact own'
  · intro found
    have isIn := (List.getElem?_eq_some_iff.mp found).1
    obtain rfl := (List.getElem?_inj isIn (accord.kept'.nodup_own caller)).mp
        (found.trans own'.symm)
    exact own

/-- The caller's own line about nothing that is there. -/
theorem of_nothing (unopened : added.connections = []) (unopened' : added'.connections = [])
    (isNext : subject = first.session.connections.length)
    (isNext' : subject' = second.session.connections.length) :
    Accord separation caller first' second' := by
  have absent {place : Nat} (own : (first.books.own caller)[place]? = some subject) : False :=
    Nat.ne_of_lt (accord.kept.own_isOld own) isNext
  have absent' {place : Nat} (own : (second.books.own caller)[place]? = some subject') : False :=
    Nat.ne_of_lt (accord.kept'.own_isOld own) isNext'
  exact accord.unopened served served' registered registered' unopened unopened'
    (fun _ => ⟨fun own => (absent own).elim, fun own => (absent' own).elim⟩)
    fun _ own => (absent own).elim

end Own

end Accord

/-! ### Tokens of pairs -/

/-- What is not there yet has no token on the books. -/
theorem Kept.issuedTo_eq_none (kept : first.Kept) (isNext : first.session.connections.length ≤ id) :
    issuedTo first.books.connectionTokens id = none ∧
      ∀ index, issuedTo first.books.statementTokens ⟨id, index⟩ = none := by
  constructor
  · refine Option.eq_none_iff_forall_ne_some.mpr fun token found => ?_
    obtain ⟨-, live | disposed⟩ := kept.connectionTokens.settled (Books.mem_of_issuedTo found)
    · cases (kept.healthy.vacant.token isNext).symm.trans live
    · cases (kept.healthy.vacant.token isNext).symm.trans disposed
  · refine fun index => Option.eq_none_iff_forall_ne_some.mpr fun token found => ?_
    obtain ⟨-, live | disposed⟩ := kept.statementTokens.settled (Books.mem_of_issuedTo found)
    · cases (kept.healthy.vacant.statementToken isNext index).symm.trans live
    · cases (kept.healthy.vacant.statementToken isNext index).symm.trans disposed

/-- Twins for which no token was put on the books. -/
theorem Pair.congr (pair : Pair separation id id' first second)
    (twins : Twins separation id id' first'.session second'.session)
    (books : first'.books = first.books.add added) (books' : second'.books = second.books.add added')
    (tokenless : added.connectionTokens = [] ∧ added.statementTokens = [])
    (tokenless' : added'.connectionTokens = [] ∧ added'.statementTokens = []) :
    Pair separation id id' first' second' := by
  obtain ⟨none, none'⟩ := tokenless
  obtain ⟨none₂, none₂'⟩ := tokenless'
  refine ⟨twins, ?_, fun index => ?_⟩
  · simp only [books, books', Books.add, none, none₂, List.append_nil, pair.connectionToken]
  · simp only [books, books', Books.add, none', none₂', List.append_nil, pair.statementToken]

/-- Twins that got their tokens. -/
theorem Pair.addConnectionToken (pair : Pair separation id id' first second)
    (twins : Twins separation id id' first'.session second'.session) {token token' : Token}
    (books : first'.books = first.books.add ⟨[], [(token, id)], []⟩)
    (books' : second'.books = second.books.add ⟨[], [(token', id')], []⟩) :
    Pair separation id id' first' second' := by
  refine ⟨twins, ?_, fun index => ?_⟩
  · simp only [books, books', Books.add, isSome_issuedTo_concat, decide_true, Bool.or_true]
  · simp only [books, books', Books.add, List.append_nil, pair.statementToken]

/-- Twins whose statements got their tokens. -/
theorem Pair.addStatementToken (pair : Pair separation id id' first second)
    (twins : Twins separation id id' first'.session second'.session) {token token' : Token}
    {index : Nat} (books : first'.books = first.books.add ⟨[], [], [(token, ⟨id, index⟩)]⟩)
    (books' : second'.books = second.books.add ⟨[], [], [(token', ⟨id', index⟩)]⟩) :
    Pair separation id id' first' second' := by
  refine ⟨twins, ?_, fun other => ?_⟩
  · simp only [books, books', Books.add, List.append_nil, pair.connectionToken]
  · simp only [books, books', Books.add, isSome_issuedTo_concat, pair.statementToken,
      StatementId.mk.injEq, true_and]

end SqliteBridge.Boundary.Shared
