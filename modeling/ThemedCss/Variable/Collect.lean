import ThemedCss.Value.Property
import ThemedCss.Variable.Hoist

/-!
# Collecting variables

A walk through a tree of values writes its leaves into the registry under names made from their
paths. What the caller gets back has the tree's shape, with a reference at each leaf.

* `ReferenceTree`: the references of a tree;
* `CollectOptions`: whether leaves without a mode go to the root, and how theme keys are read;
* `Collection`: the registry and the references during the walk;
* **`collect`**: the walk through a whole tree below a name.
-/

namespace ThemedCss

open Variable

/-- The references of a tree of variables. -/
inductive ReferenceTree
  | reference (text : Text)
  | level (entries : List (Text × ReferenceTree))

/-- How variables are collected. -/
structure CollectOptions where
  /-- Whether leaves without a mode are written to the root. -/
  fullTheme : Bool := false
  /-- How the keys `light` and `dark` are read. -/
  themeKeys : ThemeKeys := .scope

namespace CollectOptions

/-- The mode that a key scopes its mapping by. -/
def scopeOf? (o : CollectOptions) (key : Text) : Option Mode :=
  if o.themeKeys = .scope then Mode.ofThemeKey? key else none

/-- The partition that a leaf is written to, from the mode that scopes it. -/
def target? (o : CollectOptions) (mode : Option Mode) : Option Mode :=
  mode.or (if o.fullTheme then some .root else none)

end CollectOptions

/-- Whether a value is the value of a property, which no mapping is. -/
def Value.isLeaf : Value → Bool
  | .map _ => false
  | _ => true

/-- The leaves of a mapping that holds one value for each of some modes: it is not empty, its keys
are theme keys and its values are no mappings. -/
def modeLeaves? : List (Scalar × Value) → Option (List (Mode × Value))
  | [] => none
  | fields => fields.mapM fun (k, v) =>
    match Mode.ofThemeKey? k.display with
    | some m => if v.isLeaf then some (m, v) else none
    | none => none

/-- Leaves of several modes with the light ones first. -/
def lightFirst (leaves : List (Mode × Value)) : List (Mode × Value) :=
  leaves.filter (·.1 = .light) ++ leaves.filter (·.1 ≠ .light)

/-- The registry, and the references of the level that is walked through. -/
structure Collection where
  registry : Registry
  references : List (Text × ReferenceTree) := []

namespace Collection

/-- The registry with a text written under a name and counted as its fallback. -/
def record (r : Registry) (target : Option Mode) (path : List Text) (text : Text) : Registry :=
  let written := match target with
    | some m => { r with store := r.store.set m (name path) text }
    | none => r
  written.track (reference path) text

/-- A leaf under a key. One without a text leaves nothing behind. -/
def leaf (o : CollectOptions) (path : List Text) (key : Text) (mode : Option Mode) (v : Value)
    (c : Collection) : Collection :=
  match v.css? with
  | none => c
  | some text =>
    let r := record c.registry (o.target? mode) path text
    ⟨r, Entries.put key (.reference (r.resolve (reference path) text)) c.references⟩

/-- The references of the level below a key, as far as there is one. -/
def below (key : Text) (level : List (Text × ReferenceTree)) : List (Text × ReferenceTree) :=
  match Entries.get? key level with
  | some (.level entries) => entries
  | _ => []

mutual

/-- The walk through the entries of a mapping. -/
def walk (o : CollectOptions) (path : List Text) (mode : Option Mode) :
    List (Scalar × Value) → Collection → Collection
  | [], c => c
  | (k, v) :: fields, c => walk o path mode fields (visit o path mode k.display v c)

/-- The walk through what stands under one key: a scope keeps the level, leaves of several modes
share a name, and any other mapping is a level of its own. -/
def visit (o : CollectOptions) (path : List Text) (mode : Option Mode) (key : Text) :
    Value → Collection → Collection
  | .map fields, c =>
    match o.scopeOf? key with
    | some m => walk o path (some m) fields c
    | none =>
      let inner := path ++ [segment key]
      match if o.themeKeys = .scope then modeLeaves? fields else none with
      | some leaves =>
        (lightFirst leaves).foldl (fun c (m, v) => leaf o inner key (some m) v c) c
      | none =>
        let walked := walk o inner mode fields ⟨c.registry, below key c.references⟩
        ⟨walked.registry, Entries.put key (.level walked.references) c.references⟩
  | .list items, c => leaf o (path ++ [segment key]) key mode (.list items) c
  | .scalar s, c => leaf o (path ++ [segment key]) key mode (.scalar s) c
  | .pair first second, c => leaf o (path ++ [segment key]) key mode (.pair first second) c
  | .set members, c => leaf o (path ++ [segment key]) key mode (.set members) c

end

end Collection

/-- The mode and the path that a walk starts with: the name of a mode scopes the tree, any other
name that is true is the first part of the path. -/
def startOf (o : CollectOptions) : Value → Except Fault (Option Mode × List Text)
  | .scalar s =>
    match (match s with | .text t => o.scopeOf? t | _ => none) with
    | some m => .ok (some m, [])
    | none => .ok (none, if s.isTrue then [segment s.display] else [])
  | _ => .error .notKey

/-- The variables of a tree collected below a name. -/
def collect (o : CollectOptions) (name values : Value) (r : Registry) : Except Fault Collection := do
  let (mode, path) ← startOf o name
  match values with
  | .map fields => return Collection.walk o path mode fields ⟨r, []⟩
  | _ => .error .notMapping

end ThemedCss
