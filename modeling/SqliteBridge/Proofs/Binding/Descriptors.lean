import Mathlib.Data.List.Basic
import SqliteBridge.Proofs.Binding.Verdicts

/-! The grammar of method descriptors. No code of a type is the start of another code, nor of the
parenthesis that ends the parameters, so a text has at most one reading as a list of codes. Hence
a descriptor tells the types that it was made of, and it is in the grammar exactly if each of its
parameters is, that is unless one of them is `void`. -/
namespace SqliteBridge.Binding

namespace Descriptor

/-- A class in a descriptor: parts with slashes between them, none of which is empty. -/
def IsClassPath (name : List Char) : Prop :=
  (∀ c ∈ name, c ≠ '.' ∧ c ≠ ';' ∧ c ≠ '[') ∧ [] ∉ name.splitOn '/'

def primitiveCodes : List Char := ['B', 'C', 'D', 'F', 'I', 'J', 'S', 'Z']

/-- The code of the type of a field: a primitive type, a class, or an array of another type. -/
inductive IsFieldCode : List Char → Prop
  | primitive {c : Char} (listed : c ∈ primitiveCodes) : IsFieldCode [c]
  | object {name : List Char} (path : IsClassPath name) : IsFieldCode ('L' :: (name ++ [';']))
  | array {code : List Char} (element : IsFieldCode code) : IsFieldCode ('[' :: code)

def voidCode : List Char := ['V']

/-- A descriptor of a method: the codes of its parameters between parentheses, and the code of its
result, which alone may be void. -/
def IsMethodCode (text : List Char) : Prop :=
  ∃ (parameters : List (List Char)) (result : List Char),
    (∀ code ∈ parameters, IsFieldCode code) ∧ (IsFieldCode result ∨ result = voidCode) ∧
      text = '(' :: parameters.flatten ++ ')' :: result

/-! ### One reading -/

section Reading

variable {first second rest more : List Char}

/-- A code that is written in a descriptor, be it in the grammar there or not. -/
def IsTypeCode (code : List Char) : Prop := IsFieldCode code ∨ code = voidCode

theorem IsFieldCode.head (isCode : IsFieldCode first) :
    ∃ start others, first = start :: others ∧ start ∈ 'L' :: '[' :: primitiveCodes := by
  cases isCode with
  | primitive listed => exact ⟨_, [], rfl, List.mem_cons_of_mem _ (List.mem_cons_of_mem _ listed)⟩
  | object _ => exact ⟨'L', _, rfl, List.mem_cons_self⟩
  | array _ => exact ⟨'[', _, rfl, List.mem_cons_of_mem _ List.mem_cons_self⟩

/-- A field has no code that starts with a character of another kind. -/
theorem IsFieldCode.append_ne (isCode : IsFieldCode first) {c : Char}
    (other : c ∉ 'L' :: '[' :: primitiveCodes) : first ++ rest ≠ c :: more := by
  obtain ⟨start, others, rfl, listed⟩ := isCode.head
  intro same
  rw [(List.cons.inj same).1] at listed
  exact other listed

theorem IsTypeCode.append_ne_closing (isCode : IsTypeCode first) : first ++ rest ≠ ')' :: more := by
  rcases isCode with field | rfl
  · exact field.append_ne (by decide)
  · exact fun same => absurd (List.cons.inj same).1 (by decide)

/-- A class ends at the first semicolon. -/
theorem IsClassPath.append_inj (isPath : IsClassPath first) (isPath' : IsClassPath second)
    (same : first ++ ';' :: rest = second ++ ';' :: more) : first = second ∧ rest = more := by
  have unmarked : ';' ∉ first := fun listed => (isPath.1 _ listed).2.1 rfl
  have unmarked' : ';' ∉ second := fun listed => (isPath'.1 _ listed).2.1 rfl
  rcases List.append_eq_append_iff.mp same with ⟨between, rfl, others⟩ | ⟨between, rfl, others⟩
  all_goals
    cases between with
    | nil => simpa [eq_comm] using others
    | cons c between =>
      obtain ⟨rfl, -⟩ := List.cons.inj others
      simp at unmarked unmarked'

/-- No code of a field is the start of another. -/
theorem IsFieldCode.append_inj (isFirst : IsFieldCode first) (isSecond : IsFieldCode second)
    (same : first ++ rest = second ++ more) : first = second ∧ rest = more := by
  -- The first characters tell the kinds apart; only an array has a code inside that may differ.
  induction isFirst generalizing second with
  | @primitive c listed =>
    cases isSecond with
    | primitive _ =>
      obtain ⟨rfl, rest_eq⟩ := List.cons.inj same
      exact ⟨rfl, rest_eq⟩
    | object _ | array _ =>
      rw [(List.cons.inj same).1] at listed
      exact absurd listed (by decide)
  | @object name path =>
    cases isSecond with
    | primitive listed =>
      rw [← (List.cons.inj same).1] at listed
      exact absurd listed (by decide)
    | object path' =>
      rw [List.cons_append, List.cons_append, List.append_assoc, List.append_assoc] at same
      obtain ⟨rfl, rest_eq⟩ := path.append_inj path' (List.cons.inj same).2
      exact ⟨rfl, rest_eq⟩
    | array _ => exact absurd (List.cons.inj same).1 (by decide)
  | @array code element ih =>
    cases isSecond with
    | primitive listed =>
      rw [← (List.cons.inj same).1] at listed
      exact absurd listed (by decide)
    | object _ => exact absurd (List.cons.inj same).1 (by decide)
    | array element' =>
      obtain ⟨rfl, rest_eq⟩ := ih element' (List.cons.inj same).2
      exact ⟨rfl, rest_eq⟩

theorem IsTypeCode.append_inj (isFirst : IsTypeCode first) (isSecond : IsTypeCode second)
    (same : first ++ rest = second ++ more) : first = second ∧ rest = more := by
  rcases isFirst with field | rfl <;> rcases isSecond with field' | rfl
  · exact field.append_inj field' same
  · exact absurd same (field.append_ne (by decide))
  · exact absurd same.symm (field'.append_ne (by decide))
  · exact ⟨rfl, (List.cons.inj same).2⟩

/-- Codes with a closing parenthesis after them have one reading. -/
theorem flatten_inj {codes codes' : List (List Char)} (all : ∀ code ∈ codes, IsTypeCode code)
    (all' : ∀ code ∈ codes', IsTypeCode code)
    (same : codes.flatten ++ ')' :: rest = codes'.flatten ++ ')' :: more) :
    codes = codes' ∧ rest = more := by
  induction codes generalizing codes' with
  | nil =>
    cases codes' with
    | nil => exact ⟨rfl, (List.cons.inj same).2⟩
    | cons code' others' =>
      rw [List.flatten_cons, List.append_assoc] at same
      exact absurd same.symm (all' code' List.mem_cons_self).append_ne_closing
  | cons code others ih =>
    rw [List.forall_mem_cons] at all
    rw [List.flatten_cons, List.append_assoc] at same
    cases codes' with
    | nil => exact absurd same all.1.append_ne_closing
    | cons code' others' =>
      rw [List.forall_mem_cons] at all'
      rw [List.flatten_cons, List.append_assoc] at same
      obtain ⟨rfl, tails⟩ := all.1.append_inj all'.1 same
      obtain ⟨rfl, rest_eq⟩ := ih all.2 all'.2 tails
      exact ⟨rfl, rest_eq⟩

end Reading

end Descriptor

/-! ### The types of a descriptor -/

namespace BoundaryType

theorem isVoid_eq_true_iff (type : BoundaryType) : type.isVoid = true ↔ type = .void := by
  cases type <;> simp [isVoid]

/-- The characters of the code of a type. -/
def code (type : BoundaryType) : List Char := type.descriptor.toList

theorem code_injective : Function.Injective code := by
  intro type other same
  cases type <;> cases other <;> first | rfl | exact absurd same (by decide)

theorem isFieldCode_code {type : BoundaryType} (returns : type ≠ .void) :
    Descriptor.IsFieldCode type.code := by
  cases type with
  | int | long | double | boolean => exact .primitive (by decide)
  | string =>
    have path : Descriptor.IsClassPath "java/lang/String".toList := ⟨by simp, by decide⟩
    exact .object path
  | byteArray => exact .array (.primitive (by decide))
  | void => contradiction

theorem isTypeCode_code (type : BoundaryType) : Descriptor.IsTypeCode type.code := by
  by_cases void : type = .void
  · exact .inr (void ▸ rfl)
  · exact .inl (isFieldCode_code void)

theorem isFieldCode_code_iff {type : BoundaryType} :
    Descriptor.IsFieldCode type.code ↔ type ≠ .void := by
  refine ⟨?_, isFieldCode_code⟩
  rintro isCode rfl
  obtain ⟨start, others, same, listed⟩ := isCode.head
  rw [← (List.cons.inj same).1] at listed
  exact absurd listed (by decide)

end BoundaryType

section Method

variable {parameters parameters' : List BoundaryType} {result result' : BoundaryType}

theorem toList_methodDescriptor (parameters : List BoundaryType) (result : BoundaryType) :
    (methodDescriptor parameters result).toList =
      '(' :: (parameters.map BoundaryType.code).flatten ++ ')' :: result.code := by
  have opening : "(".toList = ['('] := rfl
  have closing : ")".toList = [')'] := rfl
  rw [methodDescriptor, String.toList_append, String.toList_append, String.toList_append,
    String.toList_join, List.flatMap_map, List.flatMap_def, opening, closing, List.append_assoc]
  rfl

theorem isTypeCode_of_mem_map : ∀ code ∈ parameters.map BoundaryType.code,
    Descriptor.IsTypeCode code := by
  intro code listed
  obtain ⟨type, -, rfl⟩ := List.mem_map.mp listed
  exact type.isTypeCode_code

theorem methodDescriptor_inj
    (same : methodDescriptor parameters result = methodDescriptor parameters' result') :
    parameters = parameters' ∧ result = result' := by
  have chars := congrArg String.toList same
  rw [toList_methodDescriptor, toList_methodDescriptor] at chars
  obtain ⟨codes, code⟩ := Descriptor.flatten_inj isTypeCode_of_mem_map isTypeCode_of_mem_map
    (List.cons.inj chars).2
  exact ⟨List.map_injective_iff.mpr BoundaryType.code_injective codes,
    BoundaryType.code_injective code⟩

theorem isMethodCode_methodDescriptor_iff :
    Descriptor.IsMethodCode (methodDescriptor parameters result).toList ↔ .void ∉ parameters := by
  rw [toList_methodDescriptor]
  constructor
  · rintro ⟨codes, code, all, -, same⟩ void
    obtain ⟨rfl, -⟩ := Descriptor.flatten_inj isTypeCode_of_mem_map
      (fun code listed => .inl (all code listed)) (List.cons.inj same).2
    exact BoundaryType.isFieldCode_code_iff.mp (all _ (List.mem_map_of_mem void)) rfl
  · intro returns
    refine ⟨parameters.map BoundaryType.code, result.code, ?_, result.isTypeCode_code, rfl⟩
    intro code listed
    obtain ⟨type, parameter, rfl⟩ := List.mem_map.mp listed
    exact BoundaryType.isFieldCode_code fun void => returns (void ▸ parameter)

end Method

/-! ### Derived pairs -/

section Derivation

variable {registry : Registry}

/-- A registry gives a boundary type to a logical type. -/
def Registry.Maps (registry : Registry) (type : LogicalType) (boundary : BoundaryType) : Prop :=
  ∃ entry, registry.find? type = some entry ∧ entry.boundary = boundary

theorem maps_of_boundaryTypes {operation : String} {types : List LogicalType}
    {boundaries : List BoundaryType}
    (derived : Pair.boundaryTypes registry operation types = .ok boundaries) :
    List.Forall₂ registry.Maps types boundaries := by
  induction types generalizing boundaries with
  | nil =>
    cases Except.ok.inj derived
    exact .nil
  | cons type rest ih =>
    obtain ⟨boundary, first, derived⟩ := exists_of_bind_eq_ok derived
    obtain ⟨others, more, derived⟩ := exists_of_bind_eq_ok derived
    cases Except.ok.inj derived
    rcases boundaryType_cases registry operation type with ⟨-, refused⟩ | ⟨entry, found, mapped⟩
    · rw [refused] at first
      contradiction
    · rw [mapped] at first
      exact .cons ⟨entry, found, Except.ok.inj first⟩ (ih more)

theorem maps_of_derive {signature : Signature LogicalType} {method : String} {fallible : Bool}
    {pair : Pair} (made : Pair.derive registry signature method fallible = .ok pair) :
    List.Forall₂ registry.Maps signature.parameters pair.boundary.parameters ∧
      pair.descriptor = methodDescriptor pair.boundary.parameters pair.boundary.result := by
  obtain ⟨parameters, derived, made⟩ := exists_of_bind_eq_ok made
  obtain ⟨result, -, made⟩ := exists_of_bind_eq_ok made
  cases Except.ok.inj made
  exact ⟨maps_of_boundaryTypes derived, rfl⟩

/-- Only the unit is void. -/
theorem void_iff_of_maps {removed : List LogicalType} {type : LogicalType} {boundary : BoundaryType}
    (maps : (removed.foldl Registry.without .standard).Maps type boundary) :
    boundary = .void ↔ type = .unit := by
  obtain ⟨entry, found, rfl⟩ := maps
  rw [Registry.find?_foldl_without] at found
  split at found
  · contradiction
  · obtain ⟨standard, standing, void⟩ := find?_standard type
    rw [found] at standing
    cases Option.some.inj standing
    exact entry.boundary.isVoid_eq_true_iff.symm.trans void

theorem void_mem_iff {removed types : List LogicalType} {boundaries : List BoundaryType}
    (maps : List.Forall₂ (removed.foldl Registry.without .standard).Maps types boundaries) :
    .void ∈ boundaries ↔ .unit ∈ types := by
  induction maps with
  | nil => simp
  | cons first _ ih =>
    rw [List.mem_cons, List.mem_cons, ih, eq_comm, void_iff_of_maps first, eq_comm]

end Derivation

/-- A descriptor tells the types of a method, and it is in the grammar unless a parameter is void.
So does that of a derived pair, whatever types the registry lacks and whatever the pair is compared
with, and it is in the grammar unless a parameter is the unit. -/
theorem methodDescriptor_decodable :
    (∀ parameters parameters' result result',
      methodDescriptor parameters result = methodDescriptor parameters' result' →
        parameters = parameters' ∧ result = result') ∧
    (∀ parameters result,
      Descriptor.IsMethodCode (methodDescriptor parameters result).toList ↔ .void ∉ parameters) ∧
    ∀ (removed : List LogicalType) signature method fallible pair,
      Pair.derive (removed.foldl Registry.without .standard) signature method fallible = .ok pair →
        (Descriptor.IsMethodCode pair.descriptor.toList ↔ .unit ∉ signature.parameters) ∧
        ∀ (removed' : List LogicalType) signature' method' fallible' pair',
          Pair.derive (removed'.foldl Registry.without .standard) signature' method' fallible' =
            .ok pair' → pair.descriptor = pair'.descriptor →
              pair.boundary.parameters = pair'.boundary.parameters ∧
                pair.boundary.result = pair'.boundary.result := by
  refine ⟨fun _ _ _ _ => methodDescriptor_inj, fun _ _ => isMethodCode_methodDescriptor_iff, ?_⟩
  intro removed signature method fallible pair made
  obtain ⟨maps, descriptor⟩ := maps_of_derive made
  constructor
  · rw [descriptor, isMethodCode_methodDescriptor_iff, void_mem_iff maps]
  · intro removed' signature' method' fallible' pair' made' same
    obtain ⟨-, descriptor'⟩ := maps_of_derive made'
    rw [descriptor, descriptor'] at same
    exact methodDescriptor_inj same

/-- A unit and an array of bytes: the codes can be told apart, but the first is no parameter. -/
theorem methodDescriptor_decodable_unit :
    let signature : Signature LogicalType := ⟨"log", [.unit, .byteArray], .nullableString⟩
    ∃ pair, Pair.derive (([] : List LogicalType).foldl Registry.without .standard) signature
        "nativeLog" true = .ok pair ∧
      pair.descriptor = "(V[B)Ljava/lang/String;" ∧
      ¬ Descriptor.IsMethodCode pair.descriptor.toList ∧
      ∀ parameters result, methodDescriptor parameters result = pair.descriptor →
        parameters = [.void, .byteArray] ∧ result = .string := by
  intro signature
  obtain ⟨unique, -, legal⟩ := methodDescriptor_decodable
  refine ⟨_, rfl, by decide, ?_, fun parameters result same => unique _ _ _ _ same⟩
  rw [(legal [] signature "nativeLog" true _ rfl).1]
  decide

end SqliteBridge.Binding
