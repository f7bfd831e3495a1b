import ThemedCss.Value.Format
import ThemedCss.Variable.Collect

/-!
# Collecting write by write

A walk through a tree writes to the registry as it goes, and may come to something that it cannot use
at any place: a value that should be a mapping, a key that should be a mode, a value of which no text
can be made. What it has written by then stays written.

* `Effect`: a computation that may fail, and leaves its state then as it is;
* `Stepwise.write`, `Stepwise.leaf`, `Stepwise.leaves`: the writes of one leaf, and of one leaf for
  each of some modes;
* `Stepwise.visit`, `Stepwise.walk`: the walk, which asks for a mapping or a mode where it needs one;
* **`Stepwise.collect`**: a whole tree below a name.
-/

namespace ThemedCss

open Variable

/-- A computation on a state that may fail. What it changed before it failed stays changed. -/
abbrev Effect (σ α : Type) := EStateM Fault σ α

/-- The references of a level. -/
abbrev References := List (Text × ReferenceTree)

namespace Stepwise

/-- The entries of a value that is gone through. -/
def entriesOf : Value → Except Fault (List (Scalar × Value))
  | .map fields => .ok fields
  | _ => .error .notMapping

/-- Whether a value holds one value for each of some modes. -/
def holdsModes : Value → Bool
  | .map fields => !fields.isEmpty &&
    fields.all fun f => (Mode.ofThemeKey? f.1.display).isSome && f.2.isLeaf
  | _ => false

/-- The entries with those of the light mode first. -/
def sorted (fields : List (Scalar × Value)) : List (Scalar × Value) :=
  fields.filter (·.1.display = Mode.light.name) ++ fields.filter (·.1.display ≠ Mode.light.name)

/-- A text is written to its partition, if it has one, then counted, and then referred to. -/
def write (target : Option Mode) (path : List Text) (key text : Text) (references : References) :
    Effect Registry References := do
  match target with
  | some m => modify fun r => { r with store := r.store.set m (name path) text }
  | none => pure ()
  modify fun r => r.track (reference path) text
  return Entries.put key (.reference ((← get).resolve (reference path) text)) references

/-- A leaf: its text is made first, and written then. -/
def leaf (o : CollectOptions) (path : List Text) (key : Text) (mode : Option Mode) (v : Value)
    (references : References) : Effect Registry References := do
  match ← MonadExcept.ofExcept v.format with
  | none => return references
  | some text => write (o.target? mode) path key text references

/-- One leaf after the other, each in the mode that its key names. -/
def leaves (o : CollectOptions) (path : List Text) (key : Text) :
    List (Scalar × Value) → References → Effect Registry References
  | [], references => return references
  | (k, v) :: fields, references => do
    let mode ← MonadExcept.ofExcept (Mode.ofName k.display)
    let references ← leaf o path key (some mode) v references
    leaves o path key fields references

mutual

/-- The walk through a value, which has to be a mapping. -/
def walk (o : CollectOptions) (path : List Text) (mode : Option Mode) (v : Value)
    (references : References) : Effect Registry References :=
  match v with
  | .map fields => walkEntries o path mode fields references
  | _ => throw .notMapping
termination_by (sizeOf v, 1)

/-- The walk through what stands under the keys of some entries. -/
def walkEntries (o : CollectOptions) (path : List Text) (mode : Option Mode)
    (fields : List (Scalar × Value)) (references : References) : Effect Registry References :=
  match fields with
  | [] => return references
  | (k, v) :: fields => do
    let references ← visit o path mode k.display v references
    walkEntries o path mode fields references
termination_by (sizeOf fields, 0)

/-- What stands under one key. The value is looked at first, and then taken for what it looks like. -/
def visit (o : CollectOptions) (path : List Text) (mode : Option Mode) (key : Text) (v : Value)
    (references : References) : Effect Registry References :=
  let inner := path ++ [segment key]
  match if v.isLeaf then none else o.scopeOf? key with
  | some m => walk o path (some m) v references
  | none =>
    if o.themeKeys = .scope ∧ holdsModes v then do
      let fields ← MonadExcept.ofExcept (entriesOf v)
      leaves o inner key (sorted fields) references
    else if v.isLeaf then leaf o inner key mode v references
    else do
      let level ← walk o inner mode v (Collection.below key references)
      return Entries.put key (.level level) references
termination_by (sizeOf v, 2)

end

/-- The mode and the path that a walk starts with. The name is looked up first, and written then. -/
def start (o : CollectOptions) (name : Value) : Except Fault (Option Mode × List Text) := do
  let start ← startOf o name
  match name.fault? Value.room with
  | some f => .error f
  | none => return start

/-- A tree below a name: the name is read first, and the tree is walked through then. -/
def collect (o : CollectOptions) (name values : Value) : Effect Registry References := do
  let (mode, path) ← MonadExcept.ofExcept (start o name)
  walk o path mode values []

end Stepwise

end ThemedCss
