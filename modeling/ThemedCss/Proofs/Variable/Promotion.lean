import ThemedCss.Proofs.Variable.Uses

/-!
# Promoting literals

What hoisting does to a registry, one literal at a time, and what it keeps.

* `promote_cases`: promoting a literal does nothing, or marks it as promoted where the root holds
  it, or does so and binds a free root variable to it;
* **`hoist_induction`**: what promoting any one literal of the table keeps, hoisting keeps;
* `isDone_hoist`, **`hoist_hoist`**: hoisting a second time finds nothing to do;
* `Registry.Extends`: a registry whose root has bindings beyond those that were written, each with
  enough counted uses;
* **`Extends.hoist`**, `Extends.trackAll`, `Extends.record`: hoisting, counting and recording keep
  it.
-/

namespace ThemedCss

open Variable

theorem Store.dashed_ofReference (reference : Text) :
    dashed (ofReference reference) = ofReference reference := rfl

namespace Registry

variable {threshold : Nat}

/-! ## One literal -/

theorem candidate?_eq_some {root : Bindings} {u : Usage} {reference : Text}
    (h : candidate? threshold root u = some reference) :
    ∃ count, u.uses.get? reference = some count ∧ threshold ≤ count ∧
      ∀ current, root.get? (ofReference reference) = some current → current = u.value := by
  unfold candidate? at h
  obtain ⟨⟨r, count⟩, hfind, rfl⟩ := Option.map_eq_some_iff.mp h
  have hmem := List.mem_of_find?_eq_some hfind
  have hgood := List.find?_some hfind
  simp only [decide_eq_true_eq, Option.all_eq_true] at hgood
  exact ⟨count, OrderedMap.get?_eq_some_iff.mpr hmem, hgood.1, hgood.2⟩

/-- **What promoting one literal does.** -/
theorem promote_cases (threshold : Nat) (r : Registry) (literal : Text) (u : Usage) :
    promote threshold r literal u = (r, none) ∨
    ∃ reference count, u.uses.get? reference = some count ∧ threshold ≤ count ∧
      (r.store.root.get? (ofReference reference) = some u.value ∧
          promote threshold r literal u = (r.mark literal u, none) ∨
        r.store.root.get? (ofReference reference) = none ∧
        promote threshold r literal u =
          ({ r.mark literal u with store := r.store.set .root (ofReference reference) u.value },
            some (ofReference reference))) := by
  unfold promote
  by_cases hp : u.promoted = true
  · left
    rw [if_pos hp]
  rw [if_neg hp]
  cases hc : candidate? threshold r.store.root u with
  | none => exact .inl rfl
  | some reference =>
    obtain ⟨count, huses, hcount, hcurrent⟩ := candidate?_eq_some hc
    refine .inr ⟨reference, count, huses, hcount, ?_⟩
    have hhas : r.store.has .root (ofReference reference) =
        (r.store.root.get? (ofReference reference)).isSome := rfl
    cases hroot : r.store.root.get? (ofReference reference) with
    | some current =>
      left
      rw [hroot] at hhas
      exact ⟨congrArg some (hcurrent current hroot), by simp only [hhas]; rfl⟩
    | none =>
      right
      rw [hroot] at hhas
      exact ⟨rfl, by simp only [hhas]; rfl⟩

theorem get?_mark (r : Registry) (literal other : Text) (u : Usage) :
    (r.mark literal u).table.get? other =
      if literal = other then some { u with promoted := true } else r.table.get? other :=
  OrderedMap.get?_insert _ _ _ _

theorem get?_promote (r : Registry) {literal other : Text} (u : Usage) (h : literal ≠ other) :
    (promote threshold r literal u).1.table.get? other = r.table.get? other := by
  rcases promote_cases threshold r literal u with he | ⟨_, _, _, _, ⟨_, he⟩ | ⟨_, he⟩⟩
  · rw [he]
  · rw [he]
    exact (get?_mark r literal other u).trans (if_neg h)
  · rw [he]
    exact (get?_mark r literal other u).trans (if_neg h)

/-! ## All literals -/

/-- What promoting one literal keeps, promoting some with distinct names keeps. -/
theorem promoteAll_induction {P : Registry → Prop}
    (step : ∀ r literal u, r.table.get? literal = some u → P r →
      P (promote threshold r literal u).1)
    (r : Registry) (entries : List (Text × Usage)) (hnodup : (Entries.keys entries).Nodup)
    (hentries : ∀ e ∈ entries, r.table.get? e.1 = some e.2) (h : P r) :
    P (promoteAll threshold r entries).1 := by
  induction entries generalizing r with
  | nil => exact h
  | cons e entries ih =>
    obtain ⟨literal, u⟩ := e
    obtain ⟨hliteral, hnodup⟩ := List.nodup_cons.mp hnodup
    have hu := hentries (literal, u) List.mem_cons_self
    refine ih (promote threshold r literal u).1 hnodup ?_ (step r literal u hu h)
    intro e he
    have hne : literal ≠ e.1 := fun heq => hliteral (heq ▸ List.mem_map.mpr ⟨e, he, rfl⟩)
    rw [get?_promote r u hne]
    exact hentries e (List.mem_cons_of_mem _ he)

/-- **What promoting any one literal of the table keeps, hoisting keeps.** -/
theorem hoist_induction {P : Registry → Prop}
    (step : ∀ r literal u, r.table.get? literal = some u → P r →
      P (promote threshold r literal u).1)
    {r : Registry} (h : P r) : P (r.hoist threshold).1 :=
  promoteAll_induction step r r.table.entries r.table.nodup_keys
    (fun _ he => OrderedMap.get?_eq_some_iff.mpr he) h

/-! ## Hoisting again -/

/-- A literal that hoisting leaves alone: it is promoted, or none of its references can be. -/
def IsDone (threshold : Nat) (root : Bindings) (u : Usage) : Prop :=
  u.promoted = true ∨ candidate? threshold root u = none

theorem promote_of_isDone {r : Registry} {u : Usage} (h : IsDone threshold r.store.root u)
    (literal : Text) : promote threshold r literal u = (r, none) := by
  unfold promote
  rcases h with h | h
  · rw [if_pos h]
  · rw [h]
    split <;> rfl

theorem promoteAll_of_isDone {r : Registry} {entries : List (Text × Usage)}
    (h : ∀ e ∈ entries, IsDone threshold r.store.root e.2) :
    promoteAll threshold r entries = (r, []) := by
  induction entries with
  | nil => rfl
  | cons e entries ih =>
    obtain ⟨literal, u⟩ := e
    have hu := promote_of_isDone (h (literal, u) List.mem_cons_self) literal
    simp only [promoteAll, hu, ih fun e he => h e (List.mem_cons_of_mem _ he)]
    rfl

theorem get?_root_promote {r : Registry} {literal n v : Text} {u : Usage}
    (h : r.store.root.get? n = some v) :
    (promote threshold r literal u).1.store.root.get? n = some v := by
  rcases promote_cases threshold r literal u with he | ⟨reference, _, _, _, ⟨_, he⟩ | ⟨hfree, he⟩⟩
  · rwa [he]
  · rwa [he]
  · rw [he]
    refine (Store.get?_set r.store .root .root (ofReference reference) n u.value).trans ?_
    rw [if_neg ?_]
    · exact h
    · rintro ⟨-, hname⟩
      rw [← hname, Store.dashed_ofReference, hfree] at h
      cases h

theorem get?_root_promoteAll {r : Registry} {entries : List (Text × Usage)} {n v : Text}
    (h : r.store.root.get? n = some v) :
    (promoteAll threshold r entries).1.store.root.get? n = some v := by
  induction entries generalizing r with
  | nil => exact h
  | cons e entries ih => exact ih (get?_root_promote h)

theorem get?_promoteAll {r : Registry} {entries : List (Text × Usage)} {literal : Text}
    (h : literal ∉ Entries.keys entries) :
    (promoteAll threshold r entries).1.table.get? literal = r.table.get? literal := by
  induction entries generalizing r with
  | nil => rfl
  | cons e entries ih =>
    obtain ⟨other, u⟩ := e
    obtain ⟨hne, hentries⟩ := not_or.mp (mt List.mem_cons.mpr h)
    exact (ih hentries).trans (get?_promote r u (Ne.symm hne))

theorem IsDone.mono {root root' : Bindings} {u : Usage} (h : IsDone threshold root u)
    (hroot : ∀ n v, root.get? n = some v → root'.get? n = some v) : IsDone threshold root' u := by
  refine h.imp_right fun hnone => ?_
  unfold candidate? at hnone ⊢
  rw [Option.map_eq_none_iff, List.find?_eq_none] at hnone ⊢
  intro use huse hgood
  refine hnone use huse ?_
  simp only [decide_eq_true_eq, Option.all_eq_true] at hgood ⊢
  exact ⟨hgood.1, fun current hcurrent => hgood.2 current (hroot _ _ hcurrent)⟩

theorem isDone_promote {r : Registry} {literal : Text} {u u' : Usage}
    (hu : r.table.get? literal = some u)
    (hu' : (promote threshold r literal u).1.table.get? literal = some u') :
    IsDone threshold (promote threshold r literal u).1.store.root u' := by
  by_cases hdone : IsDone threshold r.store.root u
  · rw [promote_of_isDone hdone] at hu' ⊢
    obtain rfl : u = u' := Option.some.inj (hu.symm.trans hu')
    exact hdone
  · obtain ⟨hpromoted, hcandidate⟩ := not_or.mp hdone
    obtain ⟨reference, hreference⟩ := Option.ne_none_iff_exists'.mp hcandidate
    have hmark : (promote threshold r literal u).1.table = (r.mark literal u).table := by
      unfold promote
      rw [if_neg hpromoted, hreference]
      dsimp only
      split <;> rfl
    rw [hmark, get?_mark, if_pos rfl] at hu'
    obtain rfl := Option.some.inj hu'
    exact .inl rfl

theorem isDone_promoteAll {r : Registry} {entries : List (Text × Usage)}
    (hnodup : (Entries.keys entries).Nodup)
    (hentries : ∀ e ∈ entries, r.table.get? e.1 = some e.2) {literal : Text} {u : Usage}
    (hliteral : literal ∈ Entries.keys entries)
    (hu : (promoteAll threshold r entries).1.table.get? literal = some u) :
    IsDone threshold (promoteAll threshold r entries).1.store.root u := by
  induction entries generalizing r with
  | nil => cases hliteral
  | cons e entries ih =>
    obtain ⟨first, v⟩ := e
    obtain ⟨hfirst, hnodup⟩ := List.nodup_cons.mp hnodup
    have hv := hentries (first, v) List.mem_cons_self
    rcases List.mem_cons.mp hliteral with rfl | hliteral
    · -- the first literal is done once it is promoted, and the others leave it alone
      have hsame : (promoteAll threshold r ((literal, v) :: entries)).1.table.get? literal =
          (promote threshold r literal v).1.table.get? literal :=
        get?_promoteAll (r := (promote threshold r literal v).1) hfirst
      rw [hsame] at hu
      have hroot : ∀ n w, (promote threshold r literal v).1.store.root.get? n = some w →
          (promoteAll threshold r ((literal, v) :: entries)).1.store.root.get? n = some w :=
        fun n w hw => get?_root_promoteAll (r := (promote threshold r literal v).1) hw
      exact (isDone_promote hv hu).mono hroot
    · refine ih (r := (promote threshold r first v).1) hnodup (fun e he => ?_) hliteral hu
      have hne : first ≠ e.1 := fun heq => hfirst (heq ▸ List.mem_map.mpr ⟨e, he, rfl⟩)
      rw [get?_promote r v hne]
      exact hentries e (List.mem_cons_of_mem _ he)

theorem isDone_hoist {r : Registry} {literal : Text} {u : Usage}
    (hu : (r.hoist threshold).1.table.get? literal = some u) :
    IsDone threshold (r.hoist threshold).1.store.root u := by
  have hliteral : literal ∈ r.table.keys := by
    by_contra hnot
    have hsame : (r.hoist threshold).1.table.get? literal = r.table.get? literal :=
      get?_promoteAll hnot
    rw [hsame, OrderedMap.get?_eq_none_iff.mpr hnot] at hu
    cases hu
  exact isDone_promoteAll r.table.nodup_keys
    (fun e he => OrderedMap.get?_eq_some_iff.mpr he) hliteral hu

/-- **Hoisting a second time finds nothing to do.** -/
theorem hoist_hoist (r : Registry) :
    (r.hoist threshold).1.hoist threshold = ((r.hoist threshold).1, []) :=
  promoteAll_of_isDone fun _ he => isDone_hoist (OrderedMap.get?_eq_some_iff.mpr he)

/-! ## Counts -/

theorem usesOf_mark {r : Registry} {literal : Text} {u : Usage} (h : r.table.get? literal = some u)
    (reference value : Text) :
    (r.mark literal u).table.usesOf reference value = r.table.usesOf reference value := by
  unfold UsageTable.usesOf UsageTable.entryD
  rw [get?_mark]
  by_cases hv : literal = value
  · subst hv
    rw [if_pos rfl, h]
    rfl
  · rw [if_neg hv]

theorem usesOf_promote {r : Registry} {literal : Text} {u : Usage}
    (h : r.table.get? literal = some u) (reference value : Text) :
    (promote threshold r literal u).1.table.usesOf reference value =
      r.table.usesOf reference value := by
  rcases promote_cases threshold r literal u with he | ⟨_, _, _, _, ⟨_, he⟩ | ⟨_, he⟩⟩
  · rw [he]
  · rw [he]
    exact usesOf_mark h reference value
  · rw [he]
    exact usesOf_mark h reference value

theorem usesOf_hoist (r : Registry) (reference value : Text) :
    (r.hoist threshold).1.table.usesOf reference value = r.table.usesOf reference value :=
  hoist_induction (P := fun r' => r'.table.usesOf reference value = r.table.usesOf reference value)
    (fun _ _ _ hu h => (usesOf_promote hu reference value).trans h) rfl

/-! ## Bindings beyond those that were written -/

/-- A registry holds what another one has written, and beyond it only root variables whose values
have been counted often enough behind their names. -/
structure Extends (threshold : Nat) (written r : Registry) : Prop where
  light : r.store.light = written.store.light
  dark : r.store.dark = written.store.dark
  root : ∀ n v, written.store.root.get? n = some v → r.store.root.get? n = some v
  added : ∀ n v, written.store.root.get? n = none → r.store.root.get? n = some v →
    ∃ reference, n = ofReference reference ∧ threshold ≤ r.table.usesOf reference v
  keyed : r.table.Keyed

namespace Extends

variable {written r : Registry}

theorem refl (h : r.table.Keyed) : Extends threshold r r where
  light := rfl
  dark := rfl
  root _ _ hv := hv
  added n v hn hv := by rw [hn] at hv; cases hv
  keyed := h

theorem trackAll (h : Extends threshold written r) (uses : List (Text × Text)) :
    Extends threshold written { r with table := r.table.trackAll uses } where
  light := h.light
  dark := h.dark
  root := h.root
  added n v hn hv := by
    obtain ⟨reference, hname, huses⟩ := h.added n v hn hv
    refine ⟨reference, hname, Nat.le_trans huses ?_⟩
    rw [UsageTable.usesOf_trackAll]
    exact Nat.le_add_right _ _
  keyed := UsageTable.keyed_trackAll h.keyed uses

theorem record (h : Extends threshold written r) (l : Leaf) :
    Extends threshold (l.record written) (l.record r) := by
  obtain ⟨target, path, text⟩ := l
  have ht := h.trackAll [(reference path, text)]
  cases target with
  | none => exact ⟨ht.light, ht.dark, ht.root, ht.added, ht.keyed⟩
  | some m =>
    have hset : ∀ (s : Store) n, (s.set m (name path) text).root.get? n =
        if m = .root ∧ name path = n then some text else s.root.get? n :=
      fun s n => Store.get?_set s m .root (name path) n text
    refine ⟨?_, ?_, ?_, ?_, ht.keyed⟩
    · cases m with
      | light => exact congrArg (fun b : Bindings => b.insert _ text) h.light
      | root => exact h.light
      | dark => exact h.light
    · cases m with
      | dark => exact congrArg (fun b : Bindings => b.insert _ text) h.dark
      | root => exact h.dark
      | light => exact h.dark
    · intro n v hv
      refine (hset r.store n).trans ?_
      replace hv := (hset written.store n).symm.trans hv
      split
      · rename_i hn
        rwa [if_pos hn] at hv
      · rename_i hn
        rw [if_neg hn] at hv
        exact h.root n v hv
    · intro n v hn hv
      replace hn := (hset written.store n).symm.trans hn
      replace hv := (hset r.store n).symm.trans hv
      split at hn
      · cases hn
      · rename_i hname
        rw [if_neg hname] at hv
        exact ht.added n v hn hv

theorem foldl_record (h : Extends threshold written r) (ls : List Leaf) :
    Extends threshold (ls.foldl Leaf.record written) (ls.foldl Leaf.record r) := by
  induction ls generalizing written r with
  | nil => exact h
  | cons l ls ih => exact ih (h.record l)

theorem mark (h : Extends threshold written r) {literal : Text} {u : Usage}
    (hu : r.table.get? literal = some u) : Extends threshold written (r.mark literal u) where
  light := h.light
  dark := h.dark
  root := h.root
  added n v hn hv := by
    obtain ⟨reference, hname, huses⟩ := h.added n v hn hv
    exact ⟨reference, hname, by rwa [usesOf_mark hu]⟩
  keyed value w hw := by
    rw [get?_mark] at hw
    split at hw
    · rename_i hvalue
      cases hw
      exact hvalue ▸ h.keyed literal u hu
    · exact h.keyed value w hw

/-- A free root variable may be bound to a literal that is counted often enough behind it. -/
theorem bind (h : Extends threshold written r) {reference value : Text}
    (hfree : r.store.root.get? (ofReference reference) = none)
    (huses : threshold ≤ r.table.usesOf reference value) :
    Extends threshold written
      { r with store := r.store.set .root (ofReference reference) value } := by
  have hset : ∀ n, (r.store.set .root (ofReference reference) value).root.get? n =
      if ofReference reference = n then some value else r.store.root.get? n := by
    intro n
    refine (Store.get?_set r.store .root .root (ofReference reference) n value).trans ?_
    simp only [true_and, Store.dashed_ofReference]
    rfl
  refine ⟨h.light, h.dark, ?_, ?_, h.keyed⟩
  · intro n v hv
    refine (hset n).trans ?_
    rw [if_neg ?_]
    · exact h.root n v hv
    · rintro rfl
      rw [h.root _ v hv] at hfree
      cases hfree
  · intro n v hn hv
    replace hv := (hset n).symm.trans hv
    split at hv
    · rename_i hname
      cases hv
      exact ⟨reference, hname.symm, huses⟩
    · exact h.added n v hn hv

theorem promote (h : Extends threshold written r) {literal : Text} {u : Usage}
    (hu : r.table.get? literal = some u) :
    Extends threshold written (promote threshold r literal u).1 := by
  rcases promote_cases threshold r literal u with he | ⟨ref, count, hcount, hle, ⟨_, he⟩ | ⟨hfree, he⟩⟩
  · rw [he]
    exact h
  · rw [he]
    exact h.mark hu
  · rw [he]
    refine (h.mark hu).bind hfree ?_
    rw [usesOf_mark hu, h.keyed literal u hu, UsageTable.usesOf, UsageTable.entryD, hu]
    exact hcount ▸ hle

/-- **Hoisting keeps what was written, and adds only what is counted often enough.** -/
theorem hoist (h : Extends threshold written r) :
    Extends threshold written (r.hoist threshold).1 :=
  hoist_induction (P := Extends threshold written) (fun _ _ _ hu h => h.promote hu) h

end Extends

end Registry

end ThemedCss
