import SqliteBridge.Proofs.Binding.Definitions

/-! A reader of functions. From the tokens of an item it gets the functions that the item has,
with their parameters and what they run: the statements in order, what each of them binds, and
the arguments of the calls in them. The reader knows nothing of how the source was made; it
passes over what stands between angle brackets. -/
namespace SqliteBridge.Binding

namespace Tree

def isMark (c : Char) : Tree → Bool
  | punctuation mark _ => mark == c
  | _ => false

def parenthesized? : Tree → Option Source
  | group .parenthesis trees => some trees
  | _ => none

def braced? : Tree → Option Source
  | group .brace trees => some trees
  | _ => none

end Tree

/-- The pieces of a source between marks. One with nothing in it does not count. -/
def pieces (mark : Char) (source : Source) : List Source :=
  (source.splitOnP (Tree.isMark mark)).filter fun piece => !piece.isEmpty

/-- A call in a source: what stands before its arguments, the arguments, and what stands after
them. -/
structure Call where
  callee : Source
  arguments : List Source
  after : Source

/-- The first call in a source. -/
def call? : Source → Option Call
  | [] => none
  | tree :: rest =>
    match tree.parenthesized? with
    | some arguments => some ⟨[], pieces ',' arguments, rest⟩
    | none => (call? rest).map fun call => { call with callee := tree :: call.callee }

inductive Statement where
  | binding (name : Identifier) (value : Source)
  | expression (source : Source)

def statement : Source → Statement
  | keyword :: .identifier name :: equals :: value =>
    if keyword.isWord "let" && equals.isMark '=' then .binding name value
    else .expression (keyword :: .identifier name :: equals :: value)
  | source => .expression source

/-- The name that a statement binds. -/
def Statement.bound? : Statement → Option Identifier
  | binding name _ => some name
  | expression _ => none

@[simp] theorem Statement.bound?_binding (name : Identifier) (value : Source) :
    (binding name value).bound? = some name := rfl

/-- A parameter of a function. -/
structure Declaration where
  name : Identifier
  type : Source

/-- A parameter whose name may have `mut` before it. -/
def declaration? : Source → Option Declaration
  | .identifier name :: tree :: rest =>
    if tree.isMark ':' then some ⟨name, rest⟩
    else if (Tree.identifier name).isWord "mut" then
      match tree, rest with
      | .identifier name, colon :: type => if colon.isMark ':' then some ⟨name, type⟩ else none
      | _, _ => none
    else none
  | _ => none

/-- A function with its parameters and what it runs. -/
structure Routine where
  name : Identifier
  parameters : List Source
  block : Source

/-- The function of a block and what stands before it. The header reads like a call. -/
def routine? (before block : Source) : Option Routine :=
  match before.dropWhile fun tree => !tree.isWord "fn" with
  | _ :: .identifier name :: header =>
    (call? header).map fun call => ⟨name, call.arguments, block⟩
  | _ => none

/-- The functions of a source, the first of which starts with what stands `before`. -/
def routinesFrom : (before : Source) → Source → List Routine
  | _, [] => []
  | before, tree :: rest =>
    match tree.braced? with
    | some block => (routine? before block).toList ++ routinesFrom [] rest
    | none => routinesFrom (before ++ [tree]) rest

def routines (source : Source) : List Routine := routinesFrom [] (outline source)

namespace Routine

/-- The parameters, unless one of them cannot be read. -/
def declarations? (routine : Routine) : Option (List Declaration) :=
  routine.parameters.mapM declaration?

/-- The block of a closure that is the last argument of the call in the block. -/
def closure? (routine : Routine) : Option Source := do
  let call ← call? (outline routine.block)
  let argument ← call.arguments.getLast?
  argument.findSome? Tree.braced?

/-- The statements of the closure. The last of them is its value. -/
def statements (routine : Routine) : List Statement :=
  (pieces ';' (outline (routine.closure?.getD []))).map statement

/-- The names that the closure binds. -/
def bound (routine : Routine) : List Identifier :=
  routine.statements.filterMap Statement.bound?

end Routine

/-! ### Pieces -/

/-- Whether a mark is nowhere in a source but inside groups. -/
def lacks (mark : Char) (source : Source) : Bool := source.all fun tree => !tree.isMark mark

section Pieces

variable {mark : Char}

theorem lacks_append (mark : Char) (first rest : Source) :
    lacks mark (first ++ rest) = (lacks mark first && lacks mark rest) := List.all_append

theorem lacks_cons (mark : Char) (tree : Tree) (rest : Source) :
    lacks mark (tree :: rest) = (!tree.isMark mark && lacks mark rest) := List.all_cons

theorem lacks_of_pathParts {source : Source} (parts : hasPathParts source = true)
    (other : mark ≠ ':') : lacks mark source = true := by
  apply all_of_pathParts parts
  intro tree part
  cases tree with
  | group delimiter trees => contradiction
  | identifier name => rfl
  | literal text => rfl
  | punctuation c joint =>
    rw [Tree.isPathPart, beq_iff_eq] at part
    rw [Tree.isMark, Bool.not_eq_true', beq_eq_false_iff_ne]
    exact fun same => other (same.symm.trans part)

theorem not_isMark_of_lacks {source : Source} (clean : lacks mark source = true) :
    ∀ tree ∈ source, tree.isMark mark = false := by
  intro tree listed
  have other := List.all_eq_true.mp clean tree listed
  simpa using other

theorem pieces_nil (mark : Char) : pieces mark [] = [] := by
  simp [pieces]

theorem pieces_single {piece : Source} (filled : piece.isEmpty = false)
    (clean : lacks mark piece = true) : pieces mark piece = [piece] := by
  rw [pieces, List.splitOnP_eq_singleton (not_isMark_of_lacks clean)]
  simp [filled]

theorem pieces_append {piece : Source} (filled : piece.isEmpty = false)
    (clean : lacks mark piece = true) {tree : Tree} (marked : tree.isMark mark = true)
    (rest : Source) : pieces mark (piece ++ tree :: rest) = piece :: pieces mark rest := by
  rw [pieces, List.splitOnP_append_cons_of_forall_mem (not_isMark_of_lacks clean) tree marked]
  simp [filled, pieces]

theorem pieces_commaSeparated {sources : List Source}
    (all : ∀ source ∈ sources, source.isEmpty = false ∧ lacks ',' source = true) :
    pieces ',' (Source.commaSeparated sources) = sources := by
  induction sources with
  | nil => exact pieces_nil ','
  | cons first rest ih =>
    rw [List.forall_mem_cons] at all
    cases rest with
    | nil => exact pieces_single all.1.1 all.1.2
    | cons next rest =>
      rw [Source.commaSeparated, pieces_append all.1.1 all.1.2 rfl, ih all.2]
      exact List.cons_ne_nil _ _

end Pieces

/-- A statement without an equals sign binds nothing. -/
theorem statement_of_lacks {source : Source} (clean : lacks '=' source = true) :
    statement source = .expression source := by
  rw [statement.eq_def]
  split
  · rename_i keyword name equals value
    have unmarked := not_isMark_of_lacks clean equals (by simp)
    rw [unmarked, Bool.and_false, if_neg Bool.false_ne_true]
  · rfl

/-! ### Calls and functions -/

theorem call?_append {callee : Source}
    (plain : callee.all (fun tree => tree.parenthesized?.isNone) = true)
    (arguments after : Source) :
    call? (callee ++ Source.parenthesized arguments :: after) =
      some ⟨callee, pieces ',' arguments, after⟩ := by
  induction callee with
  | nil => rfl
  | cons tree rest ih =>
    rw [List.all_cons, Bool.and_eq_true, Option.isNone_iff_eq_none] at plain
    rw [List.cons_append, call?, plain.1]
    dsimp only
    rw [ih plain.2]
    rfl

theorem parenthesized?_of_pathParts {source : Source} (parts : hasPathParts source = true) :
    source.all (fun tree => tree.parenthesized?.isNone) = true := by
  apply all_of_pathParts parts
  intro tree part
  cases tree with
  | group delimiter trees => contradiction
  | identifier name => rfl
  | literal text => rfl
  | punctuation c joint => rfl

theorem braced?_of_isBlock {tree : Tree} (plain : tree.isBlock = false) : tree.braced? = none := by
  cases tree with
  | identifier name => rfl
  | literal text => rfl
  | punctuation c joint => rfl
  | group delimiter trees =>
    cases delimiter with
    | parenthesis => rfl
    | bracket => rfl
    | brace => contradiction

theorem routinesFrom_append {before : Source} (flat : hasNoBlock before = true)
    (seen block rest : Source) :
    routinesFrom seen (before ++ Source.braced block :: rest) =
      (routine? (seen ++ before) block).toList ++ routinesFrom [] rest := by
  induction before generalizing seen with
  | nil => rw [List.append_nil]; rfl
  | cons tree before ih =>
    rw [hasNoBlock_cons, Bool.and_eq_true, Bool.not_eq_true'] at flat
    rw [List.cons_append, routinesFrom, braced?_of_isBlock flat.1]
    dsimp only
    rw [ih flat.2, List.append_assoc, List.singleton_append]

end SqliteBridge.Binding
