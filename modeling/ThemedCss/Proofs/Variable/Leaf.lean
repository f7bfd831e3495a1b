import ThemedCss.Variable.Collect

/-!
# The leaves of a tree of variables

What a walk does to a registry depends on the leaves of the tree alone: each leaf with a text is
written to its partition, if it has one, and counted as one use of its text.

* `Leaf`, `Leaf.record`: a leaf, and the registry after it;
* `leaves`, `leavesAt`: the leaves of a mapping and of what stands under one key, in walk order;
* `leavesOf`: the leaves of a whole tree below a name; each has a path that is not empty;
* **`collect_registry`**: collecting is recording the leaves one after the other.
-/

namespace ThemedCss

open Variable

/-- A leaf of a tree: the partition that it is written to, its path and its text. -/
structure Leaf where
  target : Option Mode
  path : List Text
  text : Text

namespace Leaf

/-- The registry with a leaf written and counted. -/
def record (r : Registry) (l : Leaf) : Registry := Collection.record r l.target l.path l.text

/-- The reference of a leaf with the text that stands behind it. -/
def use (l : Leaf) : Text × Text := (reference l.path, l.text)

end Leaf

namespace Collection

/-- The leaf at a path, if its value has a text. -/
def leafOf (o : CollectOptions) (path : List Text) (mode : Option Mode) (v : Value) : List Leaf :=
  (v.css?.map fun text => ⟨o.target? mode, path, text⟩).toList

/-- The leaves of several modes that share a path. -/
def leavesOfModes (o : CollectOptions) (path : List Text) (values : List (Mode × Value)) :
    List Leaf :=
  values.flatMap fun (m, v) => leafOf o path (some m) v

mutual

/-- The leaves below the entries of a mapping, in walk order. -/
def leaves (o : CollectOptions) (path : List Text) (mode : Option Mode) :
    List (Scalar × Value) → List Leaf
  | [] => []
  | (k, v) :: fields => leavesAt o path mode k.display v ++ leaves o path mode fields

/-- The leaves of what stands under one key, in walk order. -/
def leavesAt (o : CollectOptions) (path : List Text) (mode : Option Mode) (key : Text) :
    Value → List Leaf
  | .map fields =>
    match o.scopeOf? key with
    | some m => leaves o path (some m) fields
    | none =>
      match if o.themeKeys = .scope then modeLeaves? fields else none with
      | some values => leavesOfModes o (path ++ [segment key]) (lightFirst values)
      | none => leaves o (path ++ [segment key]) mode fields
  | .list items => leafOf o (path ++ [segment key]) mode (.list items)
  | .scalar s => leafOf o (path ++ [segment key]) mode (.scalar s)
  | .pair first second => leafOf o (path ++ [segment key]) mode (.pair first second)
  | .set members => leafOf o (path ++ [segment key]) mode (.set members)

end

/-! ## Paths -/

theorem path_of_mem_leafOf {o : CollectOptions} {path : List Text} {mode : Option Mode} {v : Value}
    {l : Leaf} (h : l ∈ leafOf o path mode v) : l.path = path := by
  obtain ⟨text, -, rfl⟩ := Option.map_eq_some_iff.mp (Option.mem_toList.mp h)
  rfl

theorem path_of_mem_leavesOfModes {o : CollectOptions} {path : List Text}
    {values : List (Mode × Value)} {l : Leaf} (h : l ∈ leavesOfModes o path values) :
    l.path = path := by
  obtain ⟨entry, -, h⟩ := List.mem_flatMap.mp h
  exact path_of_mem_leafOf h

mutual

theorem path_ne_nil_of_mem_leaves {o : CollectOptions} {path : List Text} {mode : Option Mode}
    {fields : List (Scalar × Value)} {l : Leaf} (h : l ∈ leaves o path mode fields) :
    l.path ≠ [] := by
  match fields with
  | [] =>
    rw [leaves] at h
    cases h
  | (k, v) :: fields =>
    rw [leaves, List.mem_append] at h
    rcases h with h | h
    · exact path_ne_nil_of_mem_leavesAt h
    · exact path_ne_nil_of_mem_leaves h

theorem path_ne_nil_of_mem_leavesAt {o : CollectOptions} {path : List Text} {mode : Option Mode}
    {key : Text} {v : Value} {l : Leaf} (h : l ∈ leavesAt o path mode key v) : l.path ≠ [] := by
  have hinner : path ++ [segment key] ≠ [] :=
    List.append_ne_nil_of_right_ne_nil _ (List.cons_ne_nil _ _)
  match v with
  | .map fields =>
    rw [leavesAt] at h
    cases hscope : o.scopeOf? key with
    | some m =>
      rw [hscope] at h
      exact path_ne_nil_of_mem_leaves h
    | none =>
      rw [hscope] at h
      dsimp only at h
      split at h
      · rw [path_of_mem_leavesOfModes h]
        exact hinner
      · exact path_ne_nil_of_mem_leaves h
  | .list items | .scalar s | .pair first second | .set members =>
    rw [leavesAt] at h
    rw [path_of_mem_leafOf h]
    exact hinner

end

/-! ## A walk records the leaves -/

theorem leaf_registry (o : CollectOptions) (path : List Text) (key : Text) (mode : Option Mode)
    (v : Value) (c : Collection) :
    (leaf o path key mode v c).registry = (leafOf o path mode v).foldl Leaf.record c.registry := by
  unfold leaf leafOf
  cases v.css? <;> rfl

theorem foldl_leaf_registry (o : CollectOptions) (path : List Text) (key : Text)
    (values : List (Mode × Value)) (c : Collection) :
    (values.foldl (fun c (m, v) => leaf o path key (some m) v c) c).registry =
      (leavesOfModes o path values).foldl Leaf.record c.registry := by
  induction values generalizing c with
  | nil => rfl
  | cons e values ih =>
    obtain ⟨m, v⟩ := e
    rw [List.foldl_cons, ih, leaf_registry, leavesOfModes, leavesOfModes, List.flatMap_cons,
      List.foldl_append]

mutual

/-- **A walk records the leaves of its mapping.** -/
theorem walk_registry (o : CollectOptions) (path : List Text) (mode : Option Mode)
    (fields : List (Scalar × Value)) (c : Collection) :
    (walk o path mode fields c).registry =
      (leaves o path mode fields).foldl Leaf.record c.registry := by
  match fields with
  | [] => rw [walk, leaves, List.foldl_nil]
  | (k, v) :: fields =>
    rw [walk, walk_registry o path mode fields, visit_registry o path mode k.display v, leaves,
      List.foldl_append]

theorem visit_registry (o : CollectOptions) (path : List Text) (mode : Option Mode) (key : Text)
    (v : Value) (c : Collection) :
    (visit o path mode key v c).registry =
      (leavesAt o path mode key v).foldl Leaf.record c.registry := by
  match v with
  | .map fields =>
    rw [visit, leavesAt]
    cases o.scopeOf? key with
    | some m => exact walk_registry o path (some m) fields c
    | none =>
      cases if o.themeKeys = .scope then modeLeaves? fields else none with
      | some values => exact foldl_leaf_registry o _ key (lightFirst values) c
      | none => exact walk_registry o _ mode fields ⟨c.registry, below key c.references⟩
  | .list items => rw [visit, leavesAt]; exact leaf_registry o _ key mode _ c
  | .scalar s => rw [visit, leavesAt]; exact leaf_registry o _ key mode _ c
  | .pair first second => rw [visit, leavesAt]; exact leaf_registry o _ key mode _ c
  | .set members => rw [visit, leavesAt]; exact leaf_registry o _ key mode _ c

end

end Collection

/-- The leaves of a tree below a name; there are none when the tree cannot be collected. -/
def leavesOf (o : CollectOptions) (name values : Value) : List Leaf :=
  match startOf o name, values with
  | .ok (mode, path), .map fields => Collection.leaves o path mode fields
  | _, _ => []

theorem path_ne_nil_of_mem_leavesOf {o : CollectOptions} {name values : Value} {l : Leaf}
    (h : l ∈ leavesOf o name values) : l.path ≠ [] := by
  unfold leavesOf at h
  split at h
  · exact Collection.path_ne_nil_of_mem_leaves h
  · cases h

/-- A tree that is collected is walked through, from where its name makes it start. -/
theorem exists_walk_of_collect {o : CollectOptions} {name values : Value} {r : Registry}
    {c : Collection} (h : collect o name values r = .ok c) :
    ∃ mode path fields, c = Collection.walk o path mode fields ⟨r, []⟩ ∧
      leavesOf o name values = Collection.leaves o path mode fields := by
  obtain ⟨⟨mode, path⟩, hstart, h⟩ := bind_eq_ok_iff.mp h
  cases values with
  | map fields =>
    cases h
    refine ⟨mode, path, fields, rfl, ?_⟩
    unfold leavesOf
    rw [hstart]
  | scalar s => cases h
  | list items => cases h
  | pair first second => cases h
  | set members => cases h

/-- **Collecting a tree is recording its leaves.** -/
theorem collect_registry {o : CollectOptions} {name values : Value} {r : Registry} {c : Collection}
    (h : collect o name values r = .ok c) :
    c.registry = (leavesOf o name values).foldl Leaf.record r := by
  obtain ⟨mode, path, fields, rfl, hleaves⟩ := exists_walk_of_collect h
  rw [hleaves]
  exact Collection.walk_registry o path mode fields ⟨r, []⟩

theorem leavesOf_eq_nil {o : CollectOptions} {name values : Value} {r : Registry} {f : Fault}
    (h : collect o name values r = .error f) : leavesOf o name values = [] := by
  unfold collect at h
  unfold leavesOf
  cases hs : startOf o name with
  | error f => rfl
  | ok start =>
    rw [hs] at h
    cases values with
    | map fields => cases h
    | scalar s => rfl
    | list items => rfl
    | pair first second => rfl
    | set members => rfl

end ThemedCss
