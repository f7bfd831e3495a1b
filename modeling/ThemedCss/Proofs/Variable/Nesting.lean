import ThemedCss.Proofs.Variable.Walk

/-!
# The references that a walk leaves

A text of a tree leaves its reference at its position. It stays there when no later text has the
position and no mapping is a level at the position of a text.

* `Inherited`: a property that every value of a tree has by its way;
* `inherited_opens`: above a value there are levels;
* `Unmixed`: no level stands at the position of a text;
* **`Unmixed.find?_foldl_write`**: at the position of a text stands the reference of the last text
  there;
* **`exists_text_of_find?`**: a reference stands only at the position of a text.
-/

namespace ThemedCss

open Variable

/-! ## Values below values -/

section Nesting

variable {o : CollectOptions}

theorem mem_arranged {splits : Bool} {spots : List Spot} {s : Spot} :
    s ∈ arranged splits spots ↔ s ∈ spots := by
  unfold arranged
  split
  · rw [List.mem_append, List.mem_filter, List.mem_filter, ← and_or_left, decide_eq_true_eq,
      decide_eq_true_eq]
    exact and_iff_left (Decidable.em _)
  · rfl

theorem mem_spotsIn {above : Option Text} {all fields : List (Scalar × Value)} {s : Spot} :
    s ∈ spotsIn o above all fields ↔ ∃ f ∈ fields, s ∈ spotsAt o above all f.1.display f.2 := by
  induction fields with
  | nil => simp [spotsIn]
  | cons f fields ih =>
    obtain ⟨k, v⟩ := f
    simp only [spotsIn, List.mem_append, ih, List.mem_cons, exists_eq_or_imp]

theorem single_mem_spotsAt (above : Option Text) (all : List (Scalar × Value)) (key : Text)
    (v : Value) : ⟨[], above, all, key, v⟩ ∈ spotsAt o above all key v := by
  cases v <;> (rw [spotsAt]; exact List.mem_cons_self)

theorem behind_mem_spotsAt {above : Option Text} {all fields : List (Scalar × Value)} {key : Text}
    {s : Spot} (h : s ∈ spotsIn o (some key) fields fields) :
    s.behind ⟨above, all, key, .map fields⟩ ∈ spotsAt o above all key (.map fields) := by
  rw [spotsAt]
  exact List.mem_cons_of_mem _ (List.mem_map_of_mem (mem_arranged.mpr h))

/-- A property that the values of all entries have and that carries over from the values in a
mapping to the same values by their ways through its key. -/
structure Inherited (o : CollectOptions)
    (P : Option Text → List (Scalar × Value) → Spot → Prop) : Prop where
  single : ∀ above all k v, (k, v) ∈ all → P above all ⟨[], above, all, k.display, v⟩
  behind : ∀ above all k fields s, (k, .map fields) ∈ all →
    s ∈ spotsIn o (some k.display) fields fields → P (some k.display) fields s →
    P above all (s.behind ⟨above, all, k.display, .map fields⟩)

namespace Inherited

variable {P : Option Text → List (Scalar × Value) → Spot → Prop}

theorem of_mem_leaf (hP : Inherited o P) {above : Option Text} {all : List (Scalar × Value)}
    {k : Scalar} {v : Value} (hv : v.isLeaf = true) (h : (k, v) ∈ all) :
    ∀ s ∈ spotsAt o above all k.display v, P above all s := by
  intro s hs
  rw [spotsAt_of_isLeaf hv, List.mem_singleton] at hs
  rw [hs]
  exact hP.single above all k v h

mutual

theorem of_mem_spotsIn (hP : Inherited o P) (above : Option Text)
    (all fields : List (Scalar × Value)) (h : fields ⊆ all) :
    ∀ s ∈ spotsIn o above all fields, P above all s := by
  match fields with
  | [] =>
    intro s hs
    rw [spotsIn] at hs
    cases hs
  | (k, v) :: fields =>
    intro s hs
    rw [spotsIn, List.mem_append] at hs
    obtain ⟨hk, hfields⟩ := List.cons_subset.mp h
    rcases hs with hs | hs
    · exact of_mem_spotsAt hP above all k v hk s hs
    · exact of_mem_spotsIn hP above all fields hfields s hs

theorem of_mem_spotsAt (hP : Inherited o P) (above : Option Text) (all : List (Scalar × Value))
    (k : Scalar) (v : Value) (h : (k, v) ∈ all) :
    ∀ s ∈ spotsAt o above all k.display v, P above all s := by
  match v with
  | .map fields =>
    intro s hs
    rw [spotsAt, List.mem_cons, List.mem_map] at hs
    rcases hs with rfl | ⟨s, hs, rfl⟩
    · exact hP.single above all k (.map fields) h
    · rw [mem_arranged] at hs
      exact hP.behind above all k fields s h hs
        (of_mem_spotsIn hP (some k.display) fields fields (List.Subset.refl _) s hs)
  | .list items => exact hP.of_mem_leaf rfl h
  | .scalar x => exact hP.of_mem_leaf rfl h
  | .pair first second => exact hP.of_mem_leaf rfl h
  | .set members => exact hP.of_mem_leaf rfl h

end

theorem forall_mem (hP : Inherited o P) (above : Option Text) (all : List (Scalar × Value)) :
    ∀ s ∈ spotsIn o above all all, P above all s :=
  hP.of_mem_spotsIn above all all (List.Subset.refl all)

end Inherited

/-! ## Above a value there are levels -/

theorem Spot.opens_mapping {above : Option Text} {all fields : List (Scalar × Value)} {key : Text}
    (hscope : o.scopeOf? key = none) (hsplits : o.splits (some key) fields = false) :
    Spot.opens o ⟨[], above, all, key, .map fields⟩ = true := by
  change ((Branch.scope? o ⟨above, all, key, .map fields⟩).isNone &&
    !o.splits (some key) fields) = true
  rw [Branch.scope?_map, hscope, hsplits]
  rfl

theorem Spot.position_of_splits {above : Option Text} {all : List (Scalar × Value)}
    (h : o.splits above all = true) {s : Spot} (hs : s ∈ spotsIn o above all all) :
    s.position o = [] := by
  rw [Collection.spotsIn_of_splits h (List.Subset.refl all)] at hs
  obtain ⟨f, hf, rfl⟩ := List.mem_map.mp hs
  obtain ⟨-, -, hmode⟩ := Collection.of_splits h hf
  rw [Spot.position_single, Branch.scope?_of_splits h, hmode]
  rfl

/-- **At every position above that of a value stands a level.** -/
theorem inherited_opens : Inherited o fun above all s =>
    ∀ q, q <+: s.position o → q ≠ [] → q ≠ s.position o →
      ∃ s' ∈ spotsIn o above all all, s'.opens o = true ∧ s'.position o = q where
  single above all k v _ q hq hne hproper := by
    rw [Spot.position_single] at hq hproper
    split at hq
    · rename_i hscope
      rw [if_pos hscope] at hproper
      rcases List.prefix_cons_iff.mp hq with rfl | ⟨q', rfl, hq'⟩
      · exact absurd rfl hne
      · rw [List.prefix_nil.mp hq'] at hproper
        exact absurd rfl hproper
    · exact absurd (List.prefix_nil.mp hq) hne
  behind above all k fields s hk hs ih q hq hne hproper := by
    let b : Branch := ⟨above, all, k.display, .map fields⟩
    have hb : b.scope? o = o.scopeOf? k.display := Branch.scope?_map o above all k.display fields
    have hbehind (s' : Spot) (hs' : s' ∈ spotsIn o (some k.display) fields fields) :
        s'.behind b ∈ spotsIn o above all all :=
      mem_spotsIn.mpr ⟨(k, .map fields), hk, behind_mem_spotsAt hs'⟩
    rw [Spot.position_behind, hb] at hq hproper
    cases hscope : o.scopeOf? k.display with
    | some m =>
      rw [hscope] at hb hq hproper
      obtain ⟨s', hs', hopens, rfl⟩ := ih q hq hne hproper
      refine ⟨s'.behind b, hbehind s' hs', hopens, ?_⟩
      rw [Spot.position_behind, hb]
      rfl
    | none =>
      rw [hscope] at hb hq hproper
      change q <+: k.display :: s.position o at hq
      change q ≠ k.display :: s.position o at hproper
      rcases List.prefix_cons_iff.mp hq with rfl | ⟨q', rfl, hq'⟩
      · exact absurd rfl hne
      have hproper' : q' ≠ s.position o := fun h => hproper (congrArg _ h)
      by_cases hnil : q' = []
      · -- the mapping itself stands there
        have hsplits : o.splits (some k.display) fields = false := by
          refine Bool.eq_false_iff.mpr fun hsplits => hproper' ?_
          rw [hnil, Spot.position_of_splits hsplits hs]
        refine ⟨⟨[], b⟩, mem_spotsIn.mpr ⟨(k, .map fields), hk, single_mem_spotsAt ..⟩,
          Spot.opens_mapping hscope hsplits, ?_⟩
        rw [Spot.position_single, hb, hnil]
        rfl
      · obtain ⟨s', hs', hopens, rfl⟩ := ih q' hq' hnil hproper'
        refine ⟨s'.behind b, hbehind s' hs', hopens, ?_⟩
        rw [Spot.position_behind, hb]
        rfl

theorem inherited_position_ne_nil : Inherited o fun above all s =>
    o.splits above all = false → s.last.value.isLeaf = true → s.position o ≠ [] where
  single above all k v _ h hv := by
    rw [Spot.position_single, Branch.scope?_of_isLeaf hv h]
    exact nofun
  behind above all k fields s _ _ ih h hv := by
    rw [Spot.position_behind, Branch.scope?_map]
    cases hscope : o.scopeOf? k.display with
    | some m => exact ih (Collection.splits_of_scopeOf? hscope fields) hv
    | none => exact nofun

end Nesting

/-! ## One write seen from a position -/

namespace Spot

variable {o : CollectOptions} {path : List Text} {mode : Option Mode} {s : Spot} {p : List Text}

theorem of_themed? {t : ThemedText} (h : s.themed? o mode = some t) :
    s.last.value.isLeaf = true ∧ t.position = s.position o := by
  unfold themed? at h
  split at h
  · obtain ⟨text, -, rfl⟩ := Option.map_eq_some_iff.mp h
    exact ⟨‹_›, rfl⟩
  · cases h

/-- A text that is written elsewhere, and a level that is opened above, leave a position alone. -/
theorem find?_write (w : Registry × ReferenceTree)
    (htext : ∀ t, s.themed? o mode = some t → ¬ p <+: t.position ∧ ¬ t.position <+: p)
    (hlevel : s.opens o = true → ¬ p <+: s.position o) :
    ReferenceTree.find? (some (write o path mode w s).2) p =
      ReferenceTree.find? (some w.2) p := by
  cases ht : s.themed? o mode with
  | some t =>
    rw [write_of_themed? ht]
    exact ReferenceTree.find?_alter_beside (htext t ht).2 (htext t ht).1 (some w.2)
  | none =>
    cases hs : s.opens o with
    | false => rw [write_of_not_opens ht hs]
    | true =>
      rw [write_of_opens ht hs]
      by_cases hp : s.position o <+: p
      · obtain ⟨below, rfl⟩ := hp
        have hbelow : below ≠ [] := by
          rintro rfl
          exact hlevel hs (List.append_nil _ ▸ List.prefix_refl _)
        rw [ReferenceTree.find?_alter_append, ReferenceTree.find?_opened hbelow,
          ReferenceTree.find?_append]
      · exact ReferenceTree.find?_alter_beside hp (hlevel hs) (some w.2)

theorem of_find?_write {w : Registry × ReferenceTree} {text : Text}
    (h : ReferenceTree.find? (some (write o path mode w s).2) p = some (.reference text)) :
    ReferenceTree.find? (some w.2) p = some (.reference text) ∨
      ∃ t, s.themed? o mode = some t ∧ t.position = p := by
  cases ht : s.themed? o mode with
  | some t =>
    rw [write_of_themed? ht] at h
    rcases ReferenceTree.of_find?_alter h with h | ⟨below, rfl, hwritten⟩
    · exact .inl h
    · by_cases hbelow : below = []
      · exact .inr ⟨t, rfl, by rw [hbelow, List.append_nil]⟩
      · rw [ReferenceTree.find?_reference hbelow] at hwritten
        cases hwritten
  | none =>
    cases hs : s.opens o with
    | false =>
      rw [write_of_not_opens ht hs] at h
      exact .inl h
    | true =>
      rw [write_of_opens ht hs] at h
      rcases ReferenceTree.of_find?_alter h with h | ⟨below, rfl, hwritten⟩
      · exact .inl h
      · by_cases hbelow : below = []
        · rw [hbelow] at hwritten
          cases hwritten
        · rw [ReferenceTree.find?_opened hbelow, ← ReferenceTree.find?_append] at hwritten
          exact .inl hwritten

theorem of_find?_foldl_write {spots : List Spot} {w : Registry × ReferenceTree} {text : Text}
    (h : ReferenceTree.find? (some (spots.foldl (write o path mode) w).2) p =
      some (.reference text)) :
    ReferenceTree.find? (some w.2) p = some (.reference text) ∨
      ∃ t ∈ spots.filterMap (themed? o mode), t.position = p := by
  induction spots generalizing w with
  | nil => exact .inl h
  | cons s spots ih =>
    rcases ih h with h | ⟨t, ht, hp⟩
    · rcases of_find?_write h with h | ⟨t, ht, hp⟩
      · exact .inl h
      · exact .inr ⟨t, List.mem_filterMap.mpr ⟨s, List.mem_cons_self, ht⟩, hp⟩
    · obtain ⟨s', hs', ht⟩ := List.mem_filterMap.mp ht
      exact .inr ⟨t, List.mem_filterMap.mpr ⟨s', List.mem_cons_of_mem _ hs', ht⟩, hp⟩

theorem find?_foldl_write {spots : List Spot} (w : Registry × ReferenceTree)
    (htext : ∀ s ∈ spots, ∀ t, s.themed? o mode = some t →
      ¬ p <+: t.position ∧ ¬ t.position <+: p)
    (hlevel : ∀ s ∈ spots, s.opens o = true → ¬ p <+: s.position o) :
    ReferenceTree.find? (some (spots.foldl (write o path mode) w).2) p =
      ReferenceTree.find? (some w.2) p := by
  induction spots generalizing w with
  | nil => rfl
  | cons s spots ih =>
    obtain ⟨ht, htext⟩ := List.forall_mem_cons.mp htext
    obtain ⟨hs, hlevel⟩ := List.forall_mem_cons.mp hlevel
    rw [List.foldl_cons, ih _ htext hlevel, find?_write w ht hs]

end Spot

/-! ## The references of a tree -/

section Tree

variable {o : CollectOptions} {theme : Text} {fields : List (Scalar × Value)}

/-- No level of a tree stands at the position of a text. -/
def Unmixed (o : CollectOptions) (theme : Text) (fields : List (Scalar × Value)) : Prop :=
  ∀ t ∈ textsOf o theme fields, ∀ s ∈ spotsIn o none fields fields,
    s.opens o = true → s.position o ≠ t.position

instance (o : CollectOptions) (theme : Text) (fields : List (Scalar × Value)) :
    Decidable (Unmixed o theme fields) :=
  inferInstanceAs (Decidable (∀ t ∈ textsOf o theme fields,
    ∀ s ∈ spotsIn o none fields fields, _ → _))

/-- Below the position of a text stands nothing. -/
theorem Unmixed.eq_of_below (h : Unmixed o theme fields) {t : ThemedText}
    (ht : t ∈ textsOf o theme fields) {s : Spot} (hs : s ∈ spotsIn o none fields fields)
    (hway : t.position <+: s.position o) : s.position o = t.position := by
  refine Decidable.byContradiction fun hne => ?_
  have hnil : t.position ≠ [] := by
    obtain ⟨s', hs', ht'⟩ := List.mem_filterMap.mp ht
    obtain ⟨hv, hposition⟩ := Spot.of_themed? ht'
    rw [hposition]
    exact inherited_position_ne_nil.forall_mem none fields s' hs' (o.splits_none fields) hv
  obtain ⟨s', hs', hopens, hposition⟩ :=
    inherited_opens.forall_mem none fields s hs t.position hway hnil (Ne.symm hne)
  exact h t ht s' hs' hopens hposition

theorem Unmixed.beside (h : Unmixed o theme fields) {t u : ThemedText}
    (ht : t ∈ textsOf o theme fields) (hu : u ∈ textsOf o theme fields)
    (hne : t.position ≠ u.position) : ¬ t.position <+: u.position := by
  intro hway
  obtain ⟨s, hs, hs'⟩ := List.mem_filterMap.mp hu
  rw [(Spot.of_themed? hs').2] at hway hne
  exact hne (h.eq_of_below ht hs hway).symm

theorem exists_last_of_mem {α : Type} {P : α → Prop} {l : List α} (h : ∃ a ∈ l, P a) :
    ∃ before a after, l = before ++ a :: after ∧ P a ∧ ∀ b ∈ after, ¬ P b := by
  induction l with
  | nil =>
    obtain ⟨a, ha, -⟩ := h
    cases ha
  | cons x l ih =>
    by_cases hl : ∃ a ∈ l, P a
    · obtain ⟨before, a, after, rfl, ha, hafter⟩ := ih hl
      exact ⟨x :: before, a, after, rfl, ha, hafter⟩
    · obtain ⟨a, ha, hPa⟩ := h
      rcases List.mem_cons.mp ha with rfl | ha
      · exact ⟨[], a, l, rfl, hPa, fun b hb hPb => hl ⟨b, hb, hPb⟩⟩
      · exact absurd ⟨a, ha, hPa⟩ hl

/-- **The reference at the position of a text is that of the last text there**, as it was when the
walk came to it. -/
theorem Unmixed.find?_foldl_write (h : Unmixed o theme fields) {p : List Text}
    (hp : ∃ t ∈ textsOf o theme fields, t.position = p) (r : Registry) :
    ∃ before t after, textsOf o theme fields = before ++ t :: after ∧ t.position = p ∧
      (∀ u ∈ after, u.position ≠ p) ∧
      ReferenceTree.find? (some ((spotsIn o none fields fields).foldl
          (Spot.write o (o.start theme) (o.scopeOf? theme)) (r, .level [])).2) p =
        some (.reference (Registry.resolve
          (((before ++ [t]).map (ThemedText.leaf o (o.start theme))).foldl Leaf.record r)
          (reference (t.leaf o (o.start theme)).path) t.text)) := by
  obtain ⟨before, s, after, hspots, ⟨t, ht, rfl⟩, hafter⟩ := exists_last_of_mem
    (P := fun s : Spot => ∃ t, s.themed? o (o.scopeOf? theme) = some t ∧ t.position = p)
    (l := spotsIn o none fields fields) (by
      obtain ⟨t, ht, rfl⟩ := hp
      obtain ⟨s, hs, ht⟩ := List.mem_filterMap.mp ht
      exact ⟨s, hs, t, ht, rfl⟩)
  have htexts : textsOf o theme fields =
      before.filterMap (Spot.themed? o (o.scopeOf? theme)) ++
        t :: after.filterMap (Spot.themed? o (o.scopeOf? theme)) := by
    rw [textsOf, hspots, List.filterMap_append, List.filterMap_cons_some ht]
  have ht' : t ∈ textsOf o theme fields := by
    rw [htexts]
    exact List.mem_append_right _ List.mem_cons_self
  have hmem : ∀ s' ∈ after, s' ∈ spotsIn o none fields fields := by
    intro s' hs'
    rw [hspots]
    exact List.mem_append_right _ (List.mem_cons_of_mem _ hs')
  refine ⟨_, t, _, htexts, rfl, ?_, ?_⟩
  · intro u hu hposition
    obtain ⟨s', hs', hu⟩ := List.mem_filterMap.mp hu
    exact hafter s' hs' ⟨u, hu, hposition⟩
  rw [hspots, List.foldl_append, List.foldl_cons, Spot.find?_foldl_write]
  · rw [Spot.write_of_themed? ht, ReferenceTree.find?_alter_self, Spot.foldl_write_fst,
      List.map_append, List.foldl_append]
    rfl
  · intro s' hs' u hu
    have hu' : u ∈ textsOf o theme fields := List.mem_filterMap.mpr ⟨s', hmem s' hs', hu⟩
    have hne : u.position ≠ t.position := fun he => hafter s' hs' ⟨u, hu, he⟩
    exact ⟨h.beside ht' hu' hne.symm, h.beside hu' ht' hne⟩
  · intro s' hs' hopens hway
    exact h t ht' s' (hmem s' hs') hopens (h.eq_of_below ht' (hmem s' hs') hway)

/-- **A reference stands only at the position of a text.** -/
theorem exists_text_of_find? {r : Registry} {p : List Text} {text : Text}
    (h : ReferenceTree.find? (some ((spotsIn o none fields fields).foldl
      (Spot.write o (o.start theme) (o.scopeOf? theme)) (r, .level [])).2) p =
        some (.reference text)) :
    ∃ t ∈ textsOf o theme fields, t.position = p := by
  rcases Spot.of_find?_foldl_write h with hempty | h
  · rcases p with _ | ⟨key, p⟩
    · cases hempty
    · have hnone := (ReferenceTree.find?_none p).symm.trans hempty
      cases hnone
  · exact h

end Tree

end ThemedCss
