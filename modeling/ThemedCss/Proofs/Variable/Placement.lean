import ThemedCss.Proofs.Variable.Growth

/-!
# Where promoted literals are

A literal is promoted once. From then on the root holds it under a reference that it is used behind
often enough, unless a theme writes that name later on.

* `Registry.HasPlace`, `Registry.Placed`: such a reference, for one literal and for all promoted ones;
* `Placed.trackAll`, `Placed.foldl_record`, **`Placed.hoist`**: counting, recording and hoisting keep
  it;
* **`Placed.hasPlace_of_free`**: a literal whose name hoisting leaves free is placed elsewhere.
-/

namespace ThemedCss

open Variable

theorem UsageTable.exists_of_promoted_trackAll {t : UsageTable} {uses : List (Text × Text)}
    {literal : Text} {u : Usage} (hu : (t.trackAll uses).get? literal = some u)
    (hp : u.promoted = true) : ∃ u', t.get? literal = some u' ∧ u'.promoted = true := by
  induction uses generalizing t with
  | nil => exact ⟨u, hu, hp⟩
  | cons use uses ih =>
    obtain ⟨reference, value⟩ := use
    obtain ⟨u', hu', hp'⟩ := ih (t := t.track reference value) hu
    rw [get?_track] at hu'
    by_cases hv : value = literal
    · subst hv
      rw [if_pos rfl] at hu'
      obtain rfl := Option.some.inj hu'
      cases ht : t.get? value with
      | none =>
        -- a new usage is not promoted
        have hnew : t.entryD value = { value := value } := by
          unfold entryD
          rw [ht]
          rfl
        rw [hnew] at hp'
        cases hp'
      | some u =>
        have hold : t.entryD value = u := by
          unfold entryD
          rw [ht]
          rfl
        rw [hold] at hp'
        exact ⟨u, rfl, hp'⟩
    · rw [if_neg hv] at hu'
      exact ⟨u', hu', hp'⟩

namespace Registry

variable {threshold : Nat}

/-- A literal is counted often enough behind a reference that the root holds it under, or that has
been written. -/
def HasPlace (threshold : Nat) (written r : Registry) (literal : Text) : Prop :=
  ∃ reference, threshold ≤ r.table.usesOf reference literal ∧
    (r.store.root.get? (ofReference reference) = some literal ∨
      written.store.root.get? (ofReference reference) ≠ none)

/-- Every promoted literal has a place. -/
def Placed (threshold : Nat) (written r : Registry) : Prop :=
  ∀ literal u, r.table.get? literal = some u → u.promoted = true →
    HasPlace threshold written r literal

namespace Placed

variable {written r : Registry}

theorem empty (threshold : Nat) (written : Registry) : Placed threshold written {} := by
  intro literal u hu
  cases hu

theorem trackAll (h : Placed threshold written r) (uses : List (Text × Text)) :
    Placed threshold written { r with table := r.table.trackAll uses } := by
  intro literal u hu hp
  obtain ⟨u', hu', hp'⟩ := UsageTable.exists_of_promoted_trackAll hu hp
  obtain ⟨reference, huses, hplace⟩ := h literal u' hu' hp'
  refine ⟨reference, ?_, hplace⟩
  rw [UsageTable.usesOf_trackAll]
  exact Nat.le_add_right_of_le huses

theorem record (h : Placed threshold written r) (l : Leaf) :
    Placed threshold (l.record written) (l.record r) := by
  intro literal u hu hp
  rw [Leaf.record_table] at hu
  obtain ⟨reference, huses, hplace⟩ := h.trackAll [l.use] literal u hu hp
  refine ⟨reference, ?_, ?_⟩
  · rw [Leaf.record_table]
    exact huses
  have hroot : ∀ r : Registry, (l.record r).store.root.get? (ofReference reference) =
      if l.target = some .root ∧ name l.path = ofReference reference then some l.text
      else r.store.root.get? (ofReference reference) :=
    fun r => Leaf.get?_record r l .root (ofReference reference)
  by_cases hl : l.target = some .root ∧ name l.path = ofReference reference
  · right
    rw [hroot, if_pos hl]
    exact Option.some_ne_none _
  · rw [hroot, hroot, if_neg hl, if_neg hl]
    exact hplace

theorem foldl_record (h : Placed threshold written r) (ls : List Leaf) :
    Placed threshold (ls.foldl Leaf.record written) (ls.foldl Leaf.record r) := by
  induction ls generalizing written r with
  | nil => exact h
  | cons l ls ih => exact ih (h.record l)

theorem promote (h : Placed threshold written r) (hkeyed : r.table.Keyed) {literal : Text}
    {u : Usage} (hu : r.table.get? literal = some u) :
    Placed threshold written (promote threshold r literal u).1 := by
  intro other u' hu' hp'
  -- what is placed stays so
  have hkeep : ∀ w, r.table.get? other = some w → w.promoted = true →
      HasPlace threshold written (Registry.promote threshold r literal u).1 other := by
    intro w hw hp
    obtain ⟨reference, huses, hplace⟩ := h other w hw hp
    refine ⟨reference, ?_, hplace.imp_left get?_root_promote⟩
    rwa [usesOf_promote hu]
  by_cases hne : literal = other
  · subst hne
    by_cases hp : u.promoted = true
    · exact hkeep u hu hp
    have hvalue : u.value = literal := hkeyed literal u hu
    rcases promote_cases threshold r literal u with
      he | ⟨reference, count, hcount, hle, hbound⟩
    · rw [he, hu] at hu'
      obtain rfl := Option.some.inj hu'
      exact absurd hp' hp
    · refine ⟨reference, ?_, .inl ?_⟩
      · rw [usesOf_promote hu, UsageTable.usesOf, UsageTable.entryD, hu]
        exact hcount ▸ hle
      · rcases hbound with ⟨hroot, he⟩ | ⟨-, he⟩
        · rw [he, ← hvalue]
          exact hroot
        · rw [he, ← hvalue]
          exact OrderedMap.get?_insert_self _ _ _
  · rw [get?_promote r u hne] at hu'
    exact hkeep u' hu' hp'

/-- **Hoisting keeps promoted literals in their places, and places those that it promotes.** -/
theorem hoist (h : Placed threshold written r) (hr : Extends threshold written r) :
    Placed threshold written (r.hoist threshold).1 :=
  (hoist_induction (P := fun r => Extends threshold written r ∧ Placed threshold written r)
    (fun _ _ _ hu h => ⟨h.1.promote hu, h.2.promote h.1.keyed hu⟩) ⟨hr, h⟩).2

/-- **A literal that is counted often enough behind a reference, whose root variable hoisting leaves
free, has a place all the same.** -/
theorem hasPlace_of_free (h : Placed threshold written (r.hoist threshold).1) (hpos : 0 < threshold)
    {reference literal : Text}
    (huses : threshold ≤ (r.hoist threshold).1.table.usesOf reference literal)
    (hfree : (r.hoist threshold).1.store.root.get? (ofReference reference) = none) :
    HasPlace threshold written (r.hoist threshold).1 literal := by
  cases hu : (r.hoist threshold).1.table.get? literal with
  | none =>
    have hzero : (r.hoist threshold).1.table.usesOf reference literal = 0 := by
      unfold UsageTable.usesOf UsageTable.entryD
      rw [hu]
      rfl
    omega
  | some u =>
    rcases isDone_hoist hu with hp | hnone
    · exact h literal u hu hp
    · -- the reference would be one to promote the literal for
      have hcount : (r.hoist threshold).1.table.usesOf reference literal =
          (u.uses.get? reference).getD 0 := by
        unfold UsageTable.usesOf UsageTable.entryD
        rw [hu]
        rfl
      cases hc : u.uses.get? reference with
      | none =>
        rw [hc] at hcount
        change _ = 0 at hcount
        omega
      | some count =>
        rw [hcount, hc] at huses
        unfold candidate? at hnone
        rw [Option.map_eq_none_iff, List.find?_eq_none] at hnone
        refine absurd ?_ (hnone (reference, count) (OrderedMap.get?_eq_some_iff.mp hc))
        simp only [decide_eq_true_eq, hfree]
        exact ⟨huses, rfl⟩

end Placed

end Registry

end ThemedCss
