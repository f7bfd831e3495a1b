import Mathlib.Data.List.Count
import ThemedCss.Proofs.Variable.Leaf

/-!
# Counted uses

How often a table has counted a literal behind a reference, and what counting does to it.

* `UsageTable.usesOf`: the number of counted uses;
* `UsageTable.Keyed`: each literal has its usage under itself;
* **`UsageTable.usesOf_trackAll`**: counting some uses adds the number of each of them;
* `Registry.scan_eq`, `Leaf.foldl_record_table`: reading a text and recording leaves only count, as
  far as the table goes.
-/

namespace ThemedCss

open Variable

namespace UsageTable

/-- The number of counted uses of a literal behind a reference. -/
def usesOf (t : UsageTable) (reference value : Text) : Nat :=
  ((t.entryD value).uses.get? reference).getD 0

/-- Each literal has its usage under itself. -/
def Keyed (t : UsageTable) : Prop := ∀ value u, t.get? value = some u → u.value = value

/-- The table with some uses counted one after the other. -/
def trackAll (t : UsageTable) (uses : List (Text × Text)) : UsageTable :=
  uses.foldl (fun t (reference, value) => t.track reference value) t

theorem entryD_track (t : UsageTable) (reference value other : Text) :
    (t.track reference value).entryD other =
      if value = other then (t.entryD value).track reference else t.entryD other := by
  unfold entryD
  rw [get?_track]
  split <;> rfl

theorem usesOf_track (t : UsageTable) (reference value other literal : Text) :
    (t.track reference value).usesOf other literal =
      t.usesOf other literal + if (reference, value) = (other, literal) then 1 else 0 := by
  unfold usesOf
  rw [entryD_track]
  by_cases hv : value = literal
  · subst hv
    rw [if_pos rfl, Usage.track, OrderedMap.get?_insert]
    by_cases hr : reference = other
    · subst hr; simp
    · simp [hr]
  · simp [hv]

/-- **Counting some uses adds the number of each of them.** -/
theorem usesOf_trackAll (t : UsageTable) (uses : List (Text × Text)) (reference value : Text) :
    (t.trackAll uses).usesOf reference value =
      t.usesOf reference value + uses.count (reference, value) := by
  induction uses generalizing t with
  | nil => rfl
  | cons use uses ih =>
    obtain ⟨r, v⟩ := use
    rw [trackAll, List.foldl_cons]
    refine (ih (t.track r v)).trans ?_
    rw [usesOf_track, List.count_cons]
    simp only [beq_iff_eq]
    omega

theorem trackAll_append (t : UsageTable) (uses more : List (Text × Text)) :
    t.trackAll (uses ++ more) = (t.trackAll uses).trackAll more :=
  List.foldl_append

theorem keyed_empty : Keyed ∅ := by
  intro value u h
  cases h

theorem value_entryD {t : UsageTable} (h : t.Keyed) (value : Text) :
    (t.entryD value).value = value := by
  unfold entryD
  cases hu : t.get? value with
  | none => rfl
  | some u => exact h value u hu

theorem keyed_track {t : UsageTable} (h : t.Keyed) (reference value : Text) :
    (t.track reference value).Keyed := by
  intro other u hu
  rw [get?_track] at hu
  split at hu
  · rename_i hv
    cases hu
    rw [← hv]
    exact value_entryD h value
  · exact h other u hu

theorem keyed_trackAll {t : UsageTable} (h : t.Keyed) (uses : List (Text × Text)) :
    (t.trackAll uses).Keyed := by
  induction uses generalizing t with
  | nil => exact h
  | cons use uses ih => exact ih (keyed_track h use.1 use.2)

end UsageTable

/-! ## Reading texts and recording leaves -/

theorem Registry.scan_eq (r : Registry) (css : Text) :
    r.scan css = { r with table := r.table.trackAll (allReferences css) } := by
  unfold Registry.scan UsageTable.trackAll
  generalize allReferences css = uses
  induction uses generalizing r with
  | nil => rfl
  | cons use uses ih => exact ih (r.track use.1 use.2)

theorem Registry.foldl_scan_eq (r : Registry) (chunks : List Text) :
    chunks.foldl Registry.scan r =
      { r with table := r.table.trackAll (chunks.flatMap allReferences) } := by
  induction chunks generalizing r with
  | nil => rfl
  | cons css chunks ih =>
    rw [List.foldl_cons, ih, scan_eq, List.flatMap_cons, UsageTable.trackAll_append]

theorem Leaf.record_table (r : Registry) (l : Leaf) :
    (l.record r).table = r.table.trackAll [l.use] := by
  obtain ⟨target, path, text⟩ := l
  cases target <;> rfl

theorem Leaf.foldl_record_table (r : Registry) (ls : List Leaf) :
    (ls.foldl Leaf.record r).table = r.table.trackAll (ls.map Leaf.use) := by
  induction ls generalizing r with
  | nil => rfl
  | cons l ls ih =>
    rw [List.foldl_cons, ih, record_table, ← UsageTable.trackAll_append]
    rfl

end ThemedCss
