import ThemedCss.Proofs.Variable.Leaf

/-!
# The values of a tree by their ways

Where a value of a tree goes depends on the keys on the way to it alone. A theme key that scopes
what is below it gives the partition, and the other keys give the name.

* `Branch`, `Branch.scope?`: a key on a way, and the mode that it scopes by;
* `Spot`, `spotsIn`: a value with its way, and the values of a tree in the order of the walk;
* `Spot.position`, `Spot.mode?`: the keys that are no scopes, and the innermost scope;
* `ThemedText`, **`textsOf`**: the texts of a tree with their positions and modes;
* `Spot.position_behind`, `Spot.mode?_behind`: what one more key in front of a way changes.
-/

namespace ThemedCss

open Variable

namespace CollectOptions

/-- Whether entries under a key are one value for each of some modes: theme keys are scopes and the
key is none, there are entries, and each of them is a theme key with the value of a property. -/
def splits (o : CollectOptions) (above : Option Text) (fields : List (Scalar × Value)) : Bool :=
  o.themeKeys = .scope && above.any (fun key => (Mode.ofThemeKey? key).isNone) &&
    !fields.isEmpty && fields.all fun (k, v) => (Mode.ofThemeKey? k.display).isSome && v.isLeaf

theorem splits_none (o : CollectOptions) (fields : List (Scalar × Value)) :
    o.splits none fields = false := by
  rw [splits, Option.any_none, Bool.and_false, Bool.false_and, Bool.false_and]

/-- The parts of a name that the name of a tree gives. -/
def start (o : CollectOptions) (theme : Text) : List Text :=
  if theme = [] ∨ (o.scopeOf? theme).isSome then [] else [segment theme]

end CollectOptions

/-- A key on the way to a value. -/
structure Branch where
  /-- The key above the entries that this one is among. -/
  above : Option Text
  /-- The entries that this one is among. -/
  fields : List (Scalar × Value)
  key : Text
  value : Value

/-- The mode that a key on a way scopes by: a theme key is a scope when a mapping stands under it, or
when it is one of the keys that a value is given for. -/
def Branch.scope? (o : CollectOptions) (b : Branch) : Option Mode :=
  if b.value.isLeaf = false ∨ o.splits b.above b.fields then o.scopeOf? b.key else none

theorem Branch.scope?_map (o : CollectOptions) (above : Option Text)
    (all : List (Scalar × Value)) (key : Text) (fields : List (Scalar × Value)) :
    scope? o ⟨above, all, key, .map fields⟩ = o.scopeOf? key := if_pos (.inl rfl)

theorem Branch.scope?_of_splits {o : CollectOptions} {b : Branch}
    (h : o.splits b.above b.fields = true) : b.scope? o = o.scopeOf? b.key := if_pos (.inr h)

theorem Branch.scope?_of_isLeaf {o : CollectOptions} {b : Branch} (hv : b.value.isLeaf = true)
    (h : o.splits b.above b.fields = false) : b.scope? o = none := by
  rw [scope?, hv, h]
  rfl

/-- A value of a tree with the way to it. -/
structure Spot where
  /-- The way down to the last key. -/
  outer : List Branch
  last : Branch

/-- A text of a tree, with the keys on its way that are no scopes, and with its mode. -/
structure ThemedText where
  position : List Text
  mode : Option Mode
  text : Text
  deriving DecidableEq

/-- The leaf of a text in a tree whose names begin with a path. -/
def ThemedText.leaf (o : CollectOptions) (path : List Text) (t : ThemedText) : Leaf :=
  ⟨o.target? t.mode, path ++ t.position.map segment, t.text⟩

namespace Spot

/-- The whole way to a value. -/
def branches (s : Spot) : List Branch := s.outer ++ [s.last]

/-- A value with one more key in front of its way. -/
def behind (b : Branch) (s : Spot) : Spot := { s with outer := b :: s.outer }

/-- The keys on the way to a value that are no scopes. -/
def position (o : CollectOptions) (s : Spot) : List Text :=
  (s.branches.filter fun b => (b.scope? o).isNone).map Branch.key

/-- The innermost scope of a value, or the mode of the whole tree. -/
def mode? (o : CollectOptions) (outer : Option Mode) (s : Spot) : Option Mode :=
  (s.branches.filterMap (Branch.scope? o)).getLast?.or outer

/-- Whether a value is a mapping that is a level of its own: its key is no scope, and it does not
hold one value for each mode. -/
def opens (o : CollectOptions) (s : Spot) : Bool :=
  match s.last.value with
  | .map fields => (s.last.scope? o).isNone && !o.splits (some s.last.key) fields
  | _ => false

/-- The text of a value, when it is the value of a property and has one. -/
def themed? (o : CollectOptions) (outer : Option Mode) (s : Spot) : Option ThemedText :=
  if s.last.value.isLeaf then s.last.value.css?.map (⟨s.position o, s.mode? o outer, ·⟩) else none

end Spot

/-- The values of entries that hold one for each mode, the light ones first. -/
def arranged (splits : Bool) (spots : List Spot) : List Spot :=
  if splits then
    spots.filter (fun s => Mode.ofThemeKey? s.last.key = some .light) ++
      spots.filter (fun s => Mode.ofThemeKey? s.last.key ≠ some .light)
  else spots

mutual

/-- The values below some of the entries under a key, a mapping before what it holds. -/
def spotsIn (o : CollectOptions) (above : Option Text) (all : List (Scalar × Value)) :
    List (Scalar × Value) → List Spot
  | [] => []
  | (k, v) :: fields => spotsAt o above all k.display v ++ spotsIn o above all fields

/-- The values from one entry on. -/
def spotsAt (o : CollectOptions) (above : Option Text) (all : List (Scalar × Value)) (key : Text) :
    Value → List Spot
  | .map fields =>
    ⟨[], above, all, key, .map fields⟩ ::
      (arranged (o.splits (some key) fields) (spotsIn o (some key) fields fields)).map
        (Spot.behind ⟨above, all, key, .map fields⟩)
  | .list items => [⟨[], above, all, key, .list items⟩]
  | .scalar s => [⟨[], above, all, key, .scalar s⟩]
  | .pair first second => [⟨[], above, all, key, .pair first second⟩]
  | .set members => [⟨[], above, all, key, .set members⟩]

end

theorem spotsAt_of_isLeaf {v : Value} (hv : v.isLeaf = true) (o : CollectOptions)
    (above : Option Text) (all : List (Scalar × Value)) (key : Text) :
    spotsAt o above all key v = [⟨[], above, all, key, v⟩] := by
  cases v with
  | map fields => cases hv
  | _ => rw [spotsAt]

/-- The texts of a tree below a name, in the order of the walk. -/
def textsOf (o : CollectOptions) (theme : Text) (fields : List (Scalar × Value)) :
    List ThemedText :=
  (spotsIn o none fields fields).filterMap (Spot.themed? o (o.scopeOf? theme))

/-! ## One more key in front of a way -/

namespace Spot

variable {o : CollectOptions} {b : Branch} {m : Mode}

theorem position_single (o : CollectOptions) (b : Branch) :
    position o ⟨[], b⟩ = if (b.scope? o).isNone then [b.key] else [] := by
  rw [position, branches, List.nil_append, List.filter_cons]
  split <;> rfl

theorem mode?_single (outer : Option Mode) (b : Branch) :
    mode? o outer ⟨[], b⟩ = (b.scope? o).or outer := by
  rw [mode?, branches, List.nil_append, List.filterMap_cons]
  cases b.scope? o <;> rfl

theorem position_behind (s : Spot) : (s.behind b).position o =
    if (b.scope? o).isNone then b.key :: s.position o else s.position o := by
  rw [position, branches, behind, List.cons_append, List.filter_cons]
  split <;> rfl

theorem mode?_behind (outer : Option Mode) (s : Spot) :
    (s.behind b).mode? o outer = s.mode? o ((b.scope? o).or outer) := by
  rw [mode?, mode?, branches, behind, List.cons_append, List.filterMap_cons]
  cases b.scope? o with
  | none => rfl
  | some m => rw [List.getLast?_cons, Option.some_or, Option.some_or, Option.or_some]; rfl

theorem themed?_behind (hb : b.scope? o = none) (outer : Option Mode) (s : Spot) :
    (s.behind b).themed? o outer =
      (s.themed? o outer).map fun t => { t with position := b.key :: t.position } := by
  unfold themed?
  rw [position_behind, mode?_behind, hb]
  change (if s.last.value.isLeaf then _ else _) = _
  split
  · rw [Option.map_map]; rfl
  · rfl

theorem themed?_behind_scope (hb : b.scope? o = some m) (outer : Option Mode) (s : Spot) :
    (s.behind b).themed? o outer = s.themed? o (some m) := by
  unfold themed?
  rw [position_behind, mode?_behind, hb]
  rfl

end Spot

theorem ThemedText.leaf_cons (o : CollectOptions) (path : List Text) (t : ThemedText)
    (key : Text) :
    ThemedText.leaf o path { t with position := key :: t.position } =
      t.leaf o (path ++ [segment key]) := by
  rw [leaf, leaf, List.map_cons, List.append_assoc]
  rfl

end ThemedCss
