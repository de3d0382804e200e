import SqliteBridge.Binding.Source

/-! Paths of Rust source such as `::a::b<T>`: names with `::` between them, each of which may
have arguments between angle brackets. The arguments may be types, constants, lifetimes or
bindings of any form. -/
namespace SqliteBridge.Binding

namespace Tree

def isAngle : Tree → Bool
  | punctuation c _ => c == '<' || c == '>'
  | _ => false

/-- The first half of an arrow; the bracket after it closes nothing. -/
def opensArrow : Tree → Bool
  | punctuation c joint => c == '-' && joint
  | _ => false

end Tree

/-- Source in which angle brackets match. What stands in groups is not looked at. -/
inductive IsNested : Source → Prop
  | nil : IsNested []
  | tree {tree : Tree} {rest : Source} (plain : tree.isAngle = false)
    (noArrow : tree.opensArrow = false) : IsNested rest → IsNested (tree :: rest)
  | arrow {rest : Source} (joint : Bool) :
    IsNested rest → IsNested (.punctuation '-' true :: .punctuation '>' joint :: rest)
  | angles {inside rest : Source} (opening closing : Bool) : IsNested inside → IsNested rest →
    IsNested (.punctuation '<' opening :: (inside ++ .punctuation '>' closing :: rest))

/-- Names and colons, and arguments between angle brackets. -/
inductive IsPath : Source → Prop
  | nil : IsPath []
  | name (name : Identifier) {rest : Source} : IsPath rest → IsPath (.identifier name :: rest)
  | colon (joint : Bool) {rest : Source} : IsPath rest → IsPath (.punctuation ':' joint :: rest)
  | arguments {list rest : Source} (opening closing : Bool) : IsNested list → IsPath rest →
    IsPath (.punctuation '<' opening :: (list ++ .punctuation '>' closing :: rest))

structure Path where
  source : Source
  isPath : IsPath source

theorem IsNested.append {first rest : Source} (nested : IsNested first) (nested' : IsNested rest) :
    IsNested (first ++ rest) := by
  induction nested with
  | nil => exact nested'
  | tree plain noArrow _ ih => exact .tree plain noArrow ih
  | arrow joint _ ih => exact .arrow joint ih
  | angles opening closing inside _ _ ih =>
    rw [List.cons_append, List.append_assoc, List.cons_append]
    exact .angles opening closing inside ih

theorem IsPath.append {first rest : Source} (isPath : IsPath first) (isPath' : IsPath rest) :
    IsPath (first ++ rest) := by
  induction isPath with
  | nil => exact isPath'
  | name name _ ih => exact .name name ih
  | colon joint _ ih => exact .colon joint ih
  | arguments opening closing list _ ih =>
    rw [List.cons_append, List.append_assoc, List.cons_append]
    exact .arguments opening closing list ih

theorem IsPath.isNested {source : Source} (isPath : IsPath source) : IsNested source := by
  induction isPath with
  | nil => exact .nil
  | name name _ ih => exact .tree rfl rfl ih
  | colon joint _ ih => exact .tree rfl rfl ih
  | arguments opening closing list _ ih => exact .angles opening closing list ih

namespace Path

instance : Inhabited Path := ⟨[.identifier ⟨"crate", false⟩], .name _ .nil⟩

/-- The words that cannot name a segment unless they are raw. -/
def keywords : List String :=
  ["_", "abstract", "as", "async", "await", "become", "box", "break", "const", "continue", "crate",
    "do", "dyn", "else", "enum", "extern", "false", "final", "fn", "for", "if", "impl", "in",
    "let", "loop", "macro", "match", "mod", "move", "mut", "override", "priv", "pub", "ref",
    "return", "Self", "self", "static", "struct", "super", "trait", "true", "try", "type",
    "typeof", "unsafe", "unsized", "use", "virtual", "where", "while", "yield"]

end Path

end SqliteBridge.Binding
