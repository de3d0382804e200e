import SqliteBridge.Binding.Path

/-! The outline of a source: what is left of it without all that stands between angle brackets.
The outline of a path has names and colons in it and nothing else, whatever its arguments are. So
a reader that keeps to the outline recognises an end mark or a group after a path. -/
namespace SqliteBridge.Binding

/-- Where in a source a reader is: between how many pairs of angle brackets, and whether the tree
before it was the first half of an arrow. -/
structure Depth where
  angles : Nat
  inArrow : Bool

namespace Depth

/-- Outside of all brackets. -/
def outside : Depth := ⟨0, false⟩

def after (depth : Depth) (tree : Tree) : Depth where
  angles :=
    match tree with
    | .punctuation '<' _ => depth.angles + 1
    | .punctuation '>' _ => if depth.inArrow then depth.angles else depth.angles - 1
    | _ => depth.angles
  inArrow := tree.opensArrow

end Depth

/-- The trees on the outside of a source from some place of it on. Brackets belong inside. -/
def outlineFrom : Depth → Source → Source
  | _, [] => []
  | depth, tree :: rest =>
    let after := depth.after tree
    if depth.angles = 0 ∧ after.angles = 0 then tree :: outlineFrom after rest
    else outlineFrom after rest

def outline (source : Source) : Source := outlineFrom .outside source

theorem Depth.after_plain {tree : Tree} (plain : tree.isAngle = false)
    (noArrow : tree.opensArrow = false) (depth : Depth) :
    depth.after tree = ⟨depth.angles, false⟩ := by
  have angles : (depth.after tree).angles = depth.angles := by
    unfold after
    dsimp only
    split
    · contradiction
    · contradiction
    · rfl
  rw [← angles, ← noArrow]
  rfl

theorem outlineFrom_append (depth : Depth) (first rest : Source) :
    outlineFrom depth (first ++ rest) =
      outlineFrom depth first ++ outlineFrom (first.foldl Depth.after depth) rest := by
  induction first generalizing depth with
  | nil => rfl
  | cons tree first ih =>
    rw [List.cons_append, outlineFrom, outlineFrom, List.foldl_cons, ih]
    split
    · rfl
    · rfl

namespace IsNested

variable {source : Source}

/-- A reader that has passed matching brackets is where it was before. -/
theorem foldl_after (nested : IsNested source) (angles : Nat) :
    source.foldl Depth.after ⟨angles, false⟩ = ⟨angles, false⟩ := by
  induction nested generalizing angles with
  | nil => rfl
  | tree plain noArrow _ ih => rw [List.foldl_cons, Depth.after_plain plain noArrow, ih]
  | arrow joint _ ih =>
    rw [List.foldl_cons, List.foldl_cons]
    exact ih angles
  | angles opening closing _ _ inside ih =>
    rw [List.foldl_cons, List.foldl_append, List.foldl_cons]
    change List.foldl _ (Depth.after (List.foldl _ ⟨angles + 1, false⟩ _) _) _ = _
    rw [inside (angles + 1)]
    exact ih angles

/-- Nothing between brackets is on the outside. -/
theorem outlineFrom_eq_nil (nested : IsNested source) (angles : Nat) :
    outlineFrom ⟨angles + 1, false⟩ source = [] := by
  induction nested generalizing angles with
  | nil => rfl
  | tree plain noArrow _ ih =>
    rw [outlineFrom, Depth.after_plain plain noArrow, if_neg (by simp)]
    exact ih angles
  | arrow joint _ ih =>
    rw [outlineFrom, if_neg (by simp), outlineFrom, if_neg (by simp [Depth.after])]
    exact ih angles
  | @angles list rest opening closing nestedInside _ inside ih =>
    rw [outlineFrom, if_neg (by simp), outlineFrom_append]
    change outlineFrom ⟨angles + 2, false⟩ list ++ outlineFrom (List.foldl _ ⟨angles + 2, false⟩ list) _ = _
    rw [inside, nestedInside.foldl_after, outlineFrom, if_neg (by simp)]
    exact ih angles

theorem outline_append (nested : IsNested source) (rest : Source) :
    outline (source ++ rest) = outline source ++ outline rest := by
  rw [outline, outlineFrom_append, Depth.outside, nested.foldl_after]
  rfl

end IsNested

/-- Arguments between brackets are not on the outside. -/
theorem outline_angles {inside : Source} (nested : IsNested inside) (opening closing : Bool)
    (rest : Source) :
    outline (.punctuation '<' opening :: (inside ++ .punctuation '>' closing :: rest)) =
      outline rest := by
  rw [outline, outlineFrom, if_neg (by simp [Depth.after, Depth.outside]), outlineFrom_append]
  change outlineFrom ⟨1, false⟩ inside ++ outlineFrom (List.foldl _ ⟨1, false⟩ inside) _ = _
  rw [nested.outlineFrom_eq_nil, nested.foldl_after, outlineFrom, if_neg (by simp)]
  rfl

theorem outline_cons {tree : Tree} (plain : tree.isAngle = false)
    (noArrow : tree.opensArrow = false) (rest : Source) :
    outline (tree :: rest) = tree :: outline rest := by
  rw [outline, outlineFrom, Depth.after_plain plain noArrow, if_pos ⟨rfl, rfl⟩]
  rfl

/-- Whether a source has no angle brackets and no arrows. -/
def isFlat (source : Source) : Bool :=
  source.all fun tree => !tree.isAngle && !tree.opensArrow

theorem isFlat_cons (tree : Tree) (rest : Source) :
    isFlat (tree :: rest) = ((!tree.isAngle && !tree.opensArrow) && isFlat rest) := List.all_cons

/-- Source without brackets is its own outline. -/
theorem outline_flat_append {source : Source} (flat : isFlat source = true) (rest : Source) :
    outline (source ++ rest) = source ++ outline rest := by
  induction source with
  | nil => rfl
  | cons tree source ih =>
    rw [isFlat_cons, Bool.and_eq_true, Bool.and_eq_true, Bool.not_eq_true', Bool.not_eq_true'] at flat
    rw [List.cons_append, outline_cons flat.1.1 flat.1.2, ih flat.2, List.cons_append]

theorem isNested_of_isFlat {source : Source} (flat : isFlat source = true) : IsNested source := by
  induction source with
  | nil => exact .nil
  | cons tree source ih =>
    rw [isFlat_cons, Bool.and_eq_true, Bool.and_eq_true, Bool.not_eq_true', Bool.not_eq_true'] at flat
    exact .tree flat.1.1 flat.1.2 (ih flat.2)

/-- The bracket of an arrow closes nothing. -/
theorem outline_arrow (joint : Bool) (rest : Source) :
    outline (.punctuation '-' true :: .punctuation '>' joint :: rest) =
      .punctuation '-' true :: .punctuation '>' joint :: outline rest := rfl

/-- Whether a tree can stand on the outside of a path. -/
def Tree.isPathPart : Tree → Bool
  | identifier _ => true
  | punctuation c _ => c == ':'
  | literal _ => false
  | group _ _ => false

/-- Whether a source consists of what can stand on the outside of paths. -/
def hasPathParts (source : Source) : Bool := source.all Tree.isPathPart

/-- What holds of all that can stand in paths holds of every tree of such a source. -/
theorem all_of_pathParts {source : Source} {holds : Tree → Bool}
    (parts : hasPathParts source = true)
    (each : ∀ tree, tree.isPathPart = true → holds tree = true) : source.all holds = true := by
  apply List.all_eq_true.mpr
  intro tree listed
  exact each tree (List.all_eq_true.mp parts tree listed)

theorem hasPathParts_append (first rest : Source) :
    hasPathParts (first ++ rest) = (hasPathParts first && hasPathParts rest) := List.all_append

theorem hasPathParts_cons (tree : Tree) (rest : Source) :
    hasPathParts (tree :: rest) = (tree.isPathPart && hasPathParts rest) := List.all_cons

theorem hasPathParts_outline {source : Source} (isPath : IsPath source) :
    hasPathParts (outline source) = true := by
  induction isPath with
  | nil => rfl
  | name name _ ih =>
    rw [outline_cons rfl rfl, hasPathParts_cons, ih]
    rfl
  | colon joint _ ih =>
    rw [outline_cons rfl rfl, hasPathParts_cons, ih]
    rfl
  | arguments opening closing list _ ih =>
    rw [outline_angles list]
    exact ih

namespace Path

variable (path : Path)

theorem hasPathParts_outline : hasPathParts (outline path.source) = true :=
  Binding.hasPathParts_outline path.isPath

theorem outline_append (rest : Source) :
    outline (path.source ++ rest) = outline path.source ++ outline rest :=
  path.isPath.isNested.outline_append rest

end Path

end SqliteBridge.Binding
