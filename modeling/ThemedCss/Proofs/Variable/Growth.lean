import ThemedCss.Proofs.Variable.Promotion
import ThemedCss.Sheet.Assemble

/-!
# Names that stay

Recording, counting and hoisting write variables and take none away.

* `Store.GrowsTo`: each partition of a store has the names that it has in another one;
* `Leaf.growsTo_record`, **`Registry.growsTo_hoist`**: recording a leaf and hoisting;
* `Leaf.get?_foldl_record`, `Leaf.has_foldl_record`: what recorded leaves leave in a partition;
* `Store.Declares`: the names that the root or the light partition has;
* **`Sheet.declaration_mem_rootLines`**: the block of the root declares these.
-/

namespace ThemedCss

open Variable

namespace Store

/-- Each partition of the second store has the names that it has in the first one. -/
def GrowsTo (s s' : Store) : Prop := ∀ m n, s.has m n = true → s'.has m n = true

/-- Whether the root or the light partition has a variable. -/
def Declares (s : Store) (n : Text) : Prop := s.has .root n = true ∨ s.has .light n = true

variable {s s' s'' : Store}

theorem GrowsTo.refl (s : Store) : s.GrowsTo s := fun _ _ h => h

theorem GrowsTo.trans (h : s.GrowsTo s') (h' : s'.GrowsTo s'') : s.GrowsTo s'' :=
  fun m n hn => h' m n (h m n hn)

theorem GrowsTo.declares (h : s.GrowsTo s') {n : Text} (hn : s.Declares n) : s'.Declares n :=
  hn.imp (h .root n) (h .light n)

theorem growsTo_set (s : Store) (m : Mode) (name value : Text) :
    s.GrowsTo (s.set m name value) := by
  intro m' n hn
  change ((s.set m name value).get? m' n).isSome = true
  rw [get?_set]
  split
  · rfl
  · exact hn

end Store

namespace Leaf

theorem get?_record (r : Registry) (l : Leaf) (m : Mode) (n : Text) :
    (l.record r).store.get? m n =
      if l.target = some m ∧ name l.path = n then some l.text else r.store.get? m n := by
  obtain ⟨target, path, text⟩ := l
  cases target with
  | none => rw [if_neg (fun h => nomatch h.1)]; rfl
  | some m' =>
    refine (Store.get?_set r.store m' m (name path) n text).trans (if_congr ?_ rfl rfl)
    rw [Option.some.injEq, name, Store.dashed_ofReference]

theorem growsTo_record (r : Registry) (l : Leaf) : r.store.GrowsTo (l.record r).store := by
  intro m n hn
  change ((l.record r).store.get? m n).isSome = true
  rw [get?_record]
  split
  · rfl
  · exact hn

theorem growsTo_foldl_record (r : Registry) (ls : List Leaf) :
    r.store.GrowsTo (ls.foldl Leaf.record r).store := by
  induction ls generalizing r with
  | nil => exact Store.GrowsTo.refl _
  | cons l ls ih => exact (growsTo_record r l).trans (ih (l.record r))

/-- **What recorded leaves leave in a partition was there before, or is the text of one of them.** -/
theorem get?_foldl_record {r : Registry} {ls : List Leaf} {m : Mode} {n v : Text}
    (h : (ls.foldl record r).store.get? m n = some v) :
    r.store.get? m n = some v ∨ ∃ l ∈ ls, l.target = some m ∧ name l.path = n ∧ l.text = v := by
  induction ls generalizing r with
  | nil => exact .inl h
  | cons l ls ih =>
    rcases ih h with hv | ⟨l', hl', hleaf⟩
    · rw [get?_record] at hv
      split at hv
      · rename_i hl
        exact .inr ⟨l, List.mem_cons_self, hl.1, hl.2, Option.some.inj hv⟩
      · exact .inl hv
    · exact .inr ⟨l', List.mem_cons_of_mem _ hl', hleaf⟩

theorem has_foldl_record (r : Registry) {ls : List Leaf} {l : Leaf} {m : Mode} (h : l ∈ ls)
    (hm : l.target = some m) : (ls.foldl record r).store.has m (name l.path) = true := by
  induction ls generalizing r with
  | nil => cases h
  | cons l' ls ih =>
    rcases List.mem_cons.mp h with rfl | h
    · refine growsTo_foldl_record (l.record r) ls m (name l.path) ?_
      change ((l.record r).store.get? m (name l.path)).isSome = true
      rw [get?_record, if_pos ⟨hm, rfl⟩]
      rfl
    · exact ih (l'.record r) h

end Leaf

theorem Registry.growsTo_promote (threshold : Nat) (r : Registry) (literal : Text) (u : Usage) :
    r.store.GrowsTo (promote threshold r literal u).1.store := by
  rcases promote_cases threshold r literal u with he | ⟨reference, _, _, _, ⟨_, he⟩ | ⟨_, he⟩⟩
  · rw [he]
    exact Store.GrowsTo.refl _
  · rw [he]
    exact Store.GrowsTo.refl _
  · rw [he]
    exact Store.growsTo_set _ .root (ofReference reference) u.value

/-- **Hoisting keeps every name.** -/
theorem Registry.growsTo_hoist (threshold : Nat) (r : Registry) :
    r.store.GrowsTo (r.hoist threshold).1.store :=
  hoist_induction (P := fun r' => r.store.GrowsTo r'.store)
    (fun r' literal u _ h => h.trans (growsTo_promote threshold r' literal u))
    (Store.GrowsTo.refl r.store)

/-- **The block of the root declares the names of the root and of the light partition.** -/
theorem Sheet.declaration_mem_rootLines {s : Store} {n : Text} (h : s.Declares n) (o : Options) :
    ∃ value, (lightBindings s).get? n = some value ∧
      Block.declaration o.indent n value ∈ rootLines o s := by
  have hsome : ((lightBindings s).get? n).isSome = true := by
    rw [lightBindings, OrderedMap.get?_overlay, Option.isSome_or, Bool.or_eq_true]
    exact h.symm
  obtain ⟨value, hvalue⟩ := Option.isSome_iff_exists.mp hsome
  refine ⟨value, hvalue, ?_⟩
  have hdeclared : Block.declaration o.indent n value ∈ declarations o.indent (lightBindings s) :=
    List.mem_map.mpr ⟨(n, value), OrderedMap.get?_eq_some_iff.mp hvalue, rfl⟩
  exact List.mem_append_left _ (List.mem_cons_of_mem _ hdeclared)

end ThemedCss
