import Mathlib.Data.Set.Function
import SqliteBridge.Proofs.Binding.Casing

/-! Snake case undoes camel case. The names for which it does so are made of segments with single
underscores between them: a digit after an underscore has no capital that would mark the place, and
of underscores next to each other, or at the end, none is left to be put back. -/
namespace SqliteBridge.Binding

/-- A segment of a name: a lower case letter, and lower case letters and digits after it. -/
def IsSegment (segment : String) : Prop :=
  ∃ first rest, segment.toList = first :: rest ∧ Config.isAsciiLower first = true ∧
    ∀ c ∈ rest, (Config.isAsciiLower c || c.isDigit) = true

/-- Segments with an underscore between each two. -/
def IsSegmented (name : String) : Prop :=
  ∃ segments, segments ≠ [] ∧ (∀ segment ∈ segments, IsSegment segment) ∧
    name = "_".intercalate segments

/-! ### Segments and operation names -/

theorem ne_underscore_of_lower_or_digit {c : Char}
    (listed : (Config.isAsciiLower c || c.isDigit) = true) : c ≠ '_' := by
  rintro rfl
  exact absurd listed (by decide)

/-- Letters and digits carry a name on. -/
theorem isOperationName_append {chars rest : List Char}
    (listed : ∀ c ∈ chars, (Config.isAsciiLower c || c.isDigit) = true) :
    isOperationName false (chars ++ rest) = isOperationName false rest := by
  induction chars with
  | nil => rfl
  | cons c chars ih =>
    rw [List.forall_mem_cons] at listed
    rw [List.cons_append, isOperationName, if_neg (ne_underscore_of_lower_or_digit listed.1),
      listed.1, Bool.true_and, ih listed.2]

theorem IsSegment.isOperationName_append {segment : String} (isSegment : IsSegment segment)
    (rest : List Char) :
    isOperationName true (segment.toList ++ rest) = isOperationName false rest := by
  obtain ⟨first, others, spelled, lower, listed⟩ := isSegment
  rw [spelled, List.cons_append, isOperationName, lower, Bool.true_and,
    Binding.isOperationName_append listed]

theorem isOperationName_intercalate {segment : String} {segments : List String}
    (all : ∀ other ∈ segment :: segments, IsSegment other) :
    isOperationName true ("_".intercalate (segment :: segments)).toList = true := by
  induction segments generalizing segment with
  | nil =>
    have ends := (all segment List.mem_cons_self).isOperationName_append []
    rw [List.append_nil] at ends
    rw [String.intercalate_singleton, ends]
    rfl
  | cons next segments ih =>
    rw [List.forall_mem_cons] at all
    have underscore : "_".toList = ['_'] := rfl
    rw [String.intercalate_cons_cons, String.toList_append, String.toList_append, underscore,
      List.append_assoc, all.1.isOperationName_append, List.singleton_append, isOperationName,
      if_pos rfl, ih all.2]

theorem IsSegmented.isOperationName {name : String} (segmented : IsSegmented name) :
    isOperationName true name.toList = true := by
  obtain ⟨segments, some, all, rfl⟩ := segmented
  cases segments with
  | nil => contradiction
  | cons segment segments => exact isOperationName_intercalate all

/-! ### The way back -/

/-- The snake case of a native method spells its operation, after the snake case of the start if
there is one. So the native methods of different operations differ, and so do their bodies. -/
theorem snakeCase_methodName (start : String) :
    (∀ name, IsSegmented name → snakeCase (methodName start name) =
      if start = "" then name else snakeCase start ++ "_" ++ name) ∧
    Set.InjOn (methodName start) {name | IsSegmented name} ∧
    Set.InjOn (fun name => snakeCase (methodName start name)) {name | IsSegmented name} := by
  have back : ∀ name, IsSegmented name → snakeCase (methodName start name) =
      if start = "" then name else snakeCase start ++ "_" ++ name := by
    intro name segmented
    split
    · rename_i empty
      rw [empty, snakeCase_methodName_of_empty segmented.isOperationName]
    · rename_i some
      exact snakeCase_methodName_of_nonempty some segmented.isOperationName
  have injective : Set.InjOn (fun name => snakeCase (methodName start name))
      {name | IsSegmented name} := by
    intro name segmented other segmented' same
    dsimp only at same
    rw [back name segmented, back other segmented'] at same
    split at same
    · exact same
    · exact (String.append_right_inj _).mp same
  exact ⟨back, fun _ segmented _ segmented' same =>
    injective segmented segmented' (congrArg snakeCase same), injective⟩

/-- A start of capitals, and a segment that ends in a digit. -/
theorem snakeCase_methodName_capitals :
    IsSegmented "bind_int64" ∧ methodName "JNI" "bind_int64" = "JNIBindInt64" ∧
      snakeCase "JNIBindInt64" = "j_n_i_bind_int64" := by
  have segmented : IsSegmented "bind_int64" := by
    refine ⟨["bind", "int64"], List.cons_ne_nil _ _, ?_, by decide⟩
    rw [List.forall_mem_cons, List.forall_mem_singleton]
    exact ⟨⟨'b', _, rfl, rfl, List.all_eq_true.mp rfl⟩, ⟨'i', _, rfl, rfl, List.all_eq_true.mp rfl⟩⟩
  have camel : methodName "JNI" "bind_int64" = "JNIBindInt64" := by decide +kernel
  have snake := (snakeCase_methodName "JNI").1 _ segmented
  rw [camel] at snake
  exact ⟨segmented, camel, snake.trans (by decide +kernel)⟩

/-- A digit after an underscore and a doubled underscore, both of which are lost. -/
example : snakeCase (methodName "native" "bind_2") = "native_bind2" ∧
    methodName "native" "bind__int" = methodName "native" "bind_int" := by decide +kernel

end SqliteBridge.Binding
