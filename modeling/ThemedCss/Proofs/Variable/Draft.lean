import Mathlib.Data.List.TakeWhile
import ThemedCss.Proofs.Variable.Leaf
import ThemedCss.Variable.Stepwise

/-!
# What a walk comes to

A walk comes to the values of its tree one after the other, and stops at the first one of which no text
can be made. The leaves in front of it are all that it writes.

* `Draft`: a value that a walk comes to, and where its text goes;
* `Draft.written`: the leaves of some drafts in front of the first one without a text;
* `drafts`, `draftsAt`, `draftsOf`: the drafts of a tree, in walk order;
* **`written_prefix_leavesOf`**: what a walk writes is a first part of the leaves of its tree.
-/

namespace ThemedCss

open Variable

/-- A value that a walk comes to, the partition that its text is written to, and its path. -/
structure Draft where
  target : Option Mode
  path : List Text
  value : Value

namespace Draft

/-- Why no text can be made of a draft. -/
def fault? (d : Draft) : Option Fault := d.value.fault? Value.room

/-- The leaf of a draft; null has none. -/
def leaf? (d : Draft) : Option Leaf := d.value.css?.map fun text => ⟨d.target, d.path, text⟩

/-- The leaves in front of the first draft of which no text can be made. -/
def written (ds : List Draft) : List Leaf :=
  (ds.takeWhile fun d => d.fault?.isNone).filterMap leaf?

variable {ds : List Draft}

theorem written_prefix (ds : List Draft) : written ds <+: ds.filterMap leaf? :=
  (List.takeWhile_prefix _).filterMap leaf?

theorem forall_isNone_iff : (∀ d ∈ ds, d.fault?.isNone = true) ↔ ds.findSome? fault? = none := by
  simp only [List.findSome?_eq_none_iff, Option.isNone_iff_eq_none]

theorem written_append (h : ds.findSome? fault? = none) (es : List Draft) :
    written (ds ++ es) = ds.filterMap leaf? ++ written es := by
  unfold written
  rw [List.takeWhile_append_of_pos (forall_isNone_iff.mpr h), List.filterMap_append]

theorem written_eq (h : ds.findSome? fault? = none) : written ds = ds.filterMap leaf? := by
  unfold written
  rw [List.takeWhile_eq_self_iff.mpr (forall_isNone_iff.mpr h)]

theorem written_cons_of_some {d : Draft} {f : Fault} (h : d.fault? = some f) (ds : List Draft) :
    written (d :: ds) = [] := by
  unfold written
  rw [List.takeWhile_cons, h]
  rfl

/-- Behind a draft without a text nothing is written. -/
theorem written_append_of_some {f : Fault} (h : ds.findSome? fault? = some f) (es : List Draft) :
    written (ds ++ es) = written ds := by
  unfold written
  rw [List.takeWhile_append, if_neg]
  intro hlength
  have hall := List.takeWhile_eq_self_iff.mp ((List.takeWhile_prefix _).eq_of_length hlength)
  rw [forall_isNone_iff.mp hall] at h
  cases h

end Draft

namespace Collection

/-- The drafts for several modes that share a path. -/
def draftsOfModes (o : CollectOptions) (path : List Text) (values : List (Mode × Value)) :
    List Draft :=
  values.map fun (m, v) => ⟨o.target? (some m), path, v⟩

mutual

/-- The drafts below the entries of a mapping, in walk order. -/
def drafts (o : CollectOptions) (path : List Text) (mode : Option Mode) :
    List (Scalar × Value) → List Draft
  | [] => []
  | (k, v) :: fields => draftsAt o path mode k.display v ++ drafts o path mode fields

/-- The drafts of what stands under one key, in walk order. -/
def draftsAt (o : CollectOptions) (path : List Text) (mode : Option Mode) (key : Text) :
    Value → List Draft
  | .map fields =>
    match o.scopeOf? key with
    | some m => drafts o path (some m) fields
    | none =>
      match if o.themeKeys = .scope then modeLeaves? fields else none with
      | some values => draftsOfModes o (path ++ [segment key]) (lightFirst values)
      | none => drafts o (path ++ [segment key]) mode fields
  | .list items => [⟨o.target? mode, path ++ [segment key], .list items⟩]
  | .scalar s => [⟨o.target? mode, path ++ [segment key], .scalar s⟩]
  | .pair first second => [⟨o.target? mode, path ++ [segment key], .pair first second⟩]
  | .set members => [⟨o.target? mode, path ++ [segment key], .set members⟩]

end

/-! ## Drafts and leaves -/

theorem leafOf_eq (o : CollectOptions) (path : List Text) (mode : Option Mode) (v : Value) :
    leafOf o path mode v = [Draft.mk (o.target? mode) path v].filterMap Draft.leaf? := by
  unfold leafOf
  rw [List.filterMap_cons, Draft.leaf?]
  cases v.css? <;> rfl

theorem leavesOfModes_eq (o : CollectOptions) (path : List Text) (values : List (Mode × Value)) :
    leavesOfModes o path values = (draftsOfModes o path values).filterMap Draft.leaf? := by
  induction values with
  | nil => rfl
  | cons e values ih =>
    obtain ⟨m, v⟩ := e
    have hcons : leavesOfModes o path ((m, v) :: values) =
        leafOf o path (some m) v ++ leavesOfModes o path values := List.flatMap_cons
    rw [hcons, ih, leafOf_eq, ← List.filterMap_append]
    rfl

mutual

theorem leaves_eq (o : CollectOptions) (path : List Text) (mode : Option Mode)
    (fields : List (Scalar × Value)) :
    leaves o path mode fields = (drafts o path mode fields).filterMap Draft.leaf? := by
  match fields with
  | [] => rw [leaves, drafts, List.filterMap_nil]
  | (k, v) :: fields =>
    rw [leaves, drafts, List.filterMap_append, leavesAt_eq o path mode k.display v,
      leaves_eq o path mode fields]

theorem leavesAt_eq (o : CollectOptions) (path : List Text) (mode : Option Mode) (key : Text)
    (v : Value) :
    leavesAt o path mode key v = (draftsAt o path mode key v).filterMap Draft.leaf? := by
  match v with
  | .map fields =>
    rw [leavesAt, draftsAt]
    cases o.scopeOf? key with
    | some m => exact leaves_eq o path (some m) fields
    | none =>
      cases if o.themeKeys = .scope then modeLeaves? fields else none with
      | some values => exact leavesOfModes_eq o _ (lightFirst values)
      | none => exact leaves_eq o _ mode fields
  | .list items => rw [leavesAt, draftsAt, leafOf_eq]
  | .scalar s => rw [leavesAt, draftsAt, leafOf_eq]
  | .pair first second => rw [leavesAt, draftsAt, leafOf_eq]
  | .set members => rw [leavesAt, draftsAt, leafOf_eq]

end

end Collection

/-- The drafts of a tree below a name; there are none when the walk does not start. -/
def draftsOf (o : CollectOptions) (name values : Value) : List Draft :=
  match Stepwise.start o name, values with
  | .ok (mode, path), .map fields => Collection.drafts o path mode fields
  | _, _ => []

theorem start_eq_ok {o : CollectOptions} {name : Value} {start : Option Mode × List Text} :
    Stepwise.start o name = .ok start ↔
      startOf o name = .ok start ∧ name.fault? Value.room = none := by
  unfold Stepwise.start
  rw [bind_eq_ok_iff]
  cases name.fault? Value.room with
  | some f => simp
  | none =>
    simp only [and_true]
    exact ⟨fun ⟨_, h, hpure⟩ => Except.ok.inj hpure ▸ h, fun h => ⟨start, h, rfl⟩⟩

/-- **What a walk writes is a first part of the leaves of its tree.** -/
theorem written_prefix_leavesOf (o : CollectOptions) (name values : Value) :
    Draft.written (draftsOf o name values) <+: leavesOf o name values := by
  unfold draftsOf
  cases hstart : Stepwise.start o name with
  | error f => exact List.nil_prefix
  | ok start =>
    obtain ⟨mode, path⟩ := start
    unfold leavesOf
    rw [(start_eq_ok.mp hstart).1]
    cases values with
    | map fields =>
      dsimp only
      rw [Collection.leaves_eq]
      exact Draft.written_prefix _
    | _ => exact List.nil_prefix

end ThemedCss
