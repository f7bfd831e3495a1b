import ThemedCss.Proofs.Variable.Tally

/-!
# What hoisting promotes

Hoisting goes through the literals in the order in which they came. Each one that is not promoted
yet takes the first of its references that is used often enough and whose root variable is free or
holds the literal by then, and a free variable is bound to it.

* `IsEligible`: a use whose reference a literal may take, as the root stands;
* `candidate?_eq_some_iff`, `candidate?_eq_none_iff`: the reference that a literal takes is that of
  its first eligible use;
* `Promotion`: a literal with the reference that it takes; `Promotion.IsChosen` says that it is the
  right one for a root;
* `Promotes`, `exists_promotes`: the promotions that a pass over some entries makes, and the
  bindings that it adds;
* `promoted_hoist_iff`: which literals are marked as promoted afterwards;
* **`exists_hoists`**: hoisting promotes exactly these, keeps everything else, and leaves nothing
  for a second time.
-/

namespace ThemedCss

open Variable

namespace Entries

variable {κ α β : Type} [DecidableEq κ]

theorem map_put {f : α → β} {k : κ} {v w : α} {es : List (κ × α)} (hv : get? k es = some v)
    (hf : f w = f v) : (put k w es).map (Prod.map id f) = es.map (Prod.map id f) := by
  induction es with
  | nil => cases hv
  | cons e es ih =>
    obtain ⟨i, u⟩ := e
    by_cases hi : i = k
    · rw [get?, if_pos hi] at hv
      rw [put, if_pos hi, List.map_cons, List.map_cons, Prod.map, Prod.map, hf, Option.some.inj hv]
    · rw [get?, if_neg hi] at hv
      rw [put, if_neg hi, List.map_cons, List.map_cons, ih hv]

end Entries

namespace Registry

variable {threshold : Nat}

/-! ## The reference that a literal takes -/

/-- A use that is frequent enough, and whose variable is free or holds the literal. -/
def IsEligible (threshold : Nat) (bindings : List (Text × Text)) (value : Text)
    (use : Text × Nat) : Prop :=
  threshold ≤ use.2 ∧
    ∀ current, Entries.get? (ofReference use.1) bindings = some current → current = value

theorem isEligible_iff {root : Bindings} {value : Text} {use : Text × Nat} :
    IsEligible threshold root.entries value use ↔ threshold ≤ use.2 ∧
      (root.get? (ofReference use.1)).all fun current => current = value := by
  simp only [IsEligible, Option.all_eq_true, decide_eq_true_eq]
  rfl

theorem candidate?_eq_some_iff {root : Bindings} {u : Usage} {reference : Text} :
    candidate? threshold root u = some reference ↔ ∃ before count after,
      u.uses.entries = before ++ (reference, count) :: after ∧
      IsEligible threshold root.entries u.value (reference, count) ∧
      ∀ use ∈ before, ¬ IsEligible threshold root.entries u.value use := by
  simp only [candidate?, isEligible_iff, Option.map_eq_some_iff, List.find?_eq_some_iff_append]
  constructor
  · rintro ⟨⟨_, count⟩, ⟨hgood, before, after, huses, hbefore⟩, rfl⟩
    refine ⟨before, count, after, huses, of_decide_eq_true hgood, ?_⟩
    intro use huse hgood
    have hbad := hbefore use huse
    rw [decide_eq_true hgood] at hbad
    cases hbad
  · rintro ⟨before, count, after, huses, hgood, hbefore⟩
    refine ⟨(reference, count), ⟨decide_eq_true hgood, before, after, huses, ?_⟩, rfl⟩
    intro use huse
    rw [decide_eq_false (hbefore use huse)]
    rfl

theorem candidate?_eq_none_iff {root : Bindings} {u : Usage} :
    candidate? threshold root u = none ↔
      ∀ use ∈ u.uses.entries, ¬ IsEligible threshold root.entries u.value use := by
  simp only [candidate?, isEligible_iff, Option.map_eq_none_iff, List.find?_eq_none,
    decide_eq_true_eq]

/-! ## One promotion -/

/-- A literal with the reference that it takes. -/
structure Promotion where
  literal : Text
  usage : Usage
  reference : Text

namespace Promotion

/-- The entry of the literal in the table. -/
def entry (p : Promotion) : Text × Usage := (p.literal, p.usage)

/-- The name of the root variable. -/
def name (p : Promotion) : Text := ofReference p.reference

/-- The root variable with the literal as its value. -/
def binding (p : Promotion) : Text × Text := (p.name, p.usage.value)

/-- The promotion is the one to make when the root has these bindings: the literal has not been
promoted before, the reference is that of its first eligible use, and its variable is free. -/
structure IsChosen (threshold : Nat) (bindings : List (Text × Text)) (p : Promotion) : Prop where
  fresh : p.usage.promoted = false
  first : ∃ before count after, p.usage.uses.entries = before ++ (p.reference, count) :: after ∧
    threshold ≤ count ∧ ∀ use ∈ before, ¬ IsEligible threshold bindings p.usage.value use
  free : Entries.get? p.name bindings = none

end Promotion

theorem root_promote (threshold : Nat) (r : Registry) (literal : Text) (u : Usage) :
    (promote threshold r literal u).1.store.root = r.store.root ∧
        (promote threshold r literal u).2 = none ∨
      ∃ p : Promotion, p.entry = (literal, u) ∧ p.IsChosen threshold r.store.root.entries ∧
        (promote threshold r literal u).1.store.root.entries =
          r.store.root.entries ++ [p.binding] ∧
        (promote threshold r literal u).2 = some p.name := by
  unfold promote
  by_cases hfresh : u.promoted = true
  · rw [if_pos hfresh]
    exact .inl ⟨rfl, rfl⟩
  rw [if_neg hfresh]
  cases hc : candidate? threshold r.store.root u with
  | none => exact .inl ⟨rfl, rfl⟩
  | some reference =>
    by_cases hhas : r.store.has .root (ofReference reference) = true
    · left
      dsimp only
      rw [if_pos hhas]
      exact ⟨rfl, rfl⟩
    · right
      dsimp only
      rw [if_neg hhas]
      have hfree : r.store.root.get? (ofReference reference) = none :=
        Option.not_isSome_iff_eq_none.mp hhas
      obtain ⟨before, count, after, huses, hgood, hbefore⟩ := candidate?_eq_some_iff.mp hc
      refine ⟨⟨literal, u, reference⟩, rfl, ⟨Bool.eq_false_iff.mpr hfresh,
        ⟨before, count, after, huses, hgood.1, hbefore⟩, hfree⟩, ?_, rfl⟩
      exact Entries.put_of_not_mem (OrderedMap.get?_eq_none_iff.mp hfree) u.value

/-! ## A pass over some entries -/

/-- The promotions that a pass over some entries makes, beginning with some bindings of the root:
they come in the order of the entries, at most one for each, and each one is the one to make when
those before it have been made. -/
structure Promotes (threshold : Nat) (bindings : List (Text × Text))
    (entries : List (Text × Usage)) (promotions : List Promotion) : Prop where
  ordered : (promotions.map Promotion.entry).Sublist entries
  chosen : ∀ earlier p later, promotions = earlier ++ p :: later →
    p.IsChosen threshold (bindings ++ earlier.map Promotion.binding)

namespace Promotes

variable {bindings : List (Text × Text)} {entries : List (Text × Usage)}
  {promotions : List Promotion}

theorem nil (threshold : Nat) (bindings : List (Text × Text)) :
    Promotes threshold bindings [] [] where
  ordered := .slnil
  chosen earlier p later h := by
    have := congrArg List.length h
    simp at this

theorem skip (h : Promotes threshold bindings entries promotions) (e : Text × Usage) :
    Promotes threshold bindings (e :: entries) promotions where
  ordered := h.ordered.cons e
  chosen := h.chosen

theorem cons {p : Promotion} (hp : p.IsChosen threshold bindings)
    (h : Promotes threshold (bindings ++ [p.binding]) entries promotions) :
    Promotes threshold bindings (p.entry :: entries) (p :: promotions) where
  ordered := h.ordered.cons_cons p.entry
  chosen earlier q later heq := by
    cases earlier with
    | nil =>
      obtain ⟨rfl, -⟩ := List.cons.inj heq
      simpa only [List.map_nil, List.append_nil] using hp
    | cons first earlier =>
      obtain ⟨rfl, hrest⟩ := List.cons.inj heq
      have hq := h.chosen earlier q later hrest
      rwa [List.append_assoc, List.singleton_append] at hq

end Promotes

/-- What promoting the literals of some entries in turn adds to the root. -/
theorem exists_promotes (threshold : Nat) (r : Registry) (entries : List (Text × Usage)) :
    ∃ promotions, Promotes threshold r.store.root.entries entries promotions ∧
      (promoteAll threshold r entries).1.store.root.entries =
        r.store.root.entries ++ promotions.map Promotion.binding ∧
      (promoteAll threshold r entries).2 = promotions.map Promotion.name := by
  induction entries generalizing r with
  | nil => exact ⟨[], .nil threshold _, (List.append_nil _).symm, rfl⟩
  | cons e entries ih =>
    obtain ⟨literal, u⟩ := e
    obtain ⟨promotions, hpromotes, hroot, hnames⟩ := ih (promote threshold r literal u).1
    rcases root_promote threshold r literal u with ⟨hsame, hnone⟩ | ⟨p, hentry, hp, hadded, hname⟩
    · rw [hsame] at hpromotes hroot
      refine ⟨promotions, hpromotes.skip _, hroot, ?_⟩
      simp only [promoteAll, hnone, hnames]
      rfl
    · rw [hadded] at hpromotes hroot
      refine ⟨p :: promotions, hentry ▸ Promotes.cons hp hpromotes, ?_, ?_⟩
      · simp only [promoteAll, hroot, List.append_assoc, List.map_cons]
        rfl
      · simp only [promoteAll, hname, hnames, List.map_cons]
        rfl

/-! ## What hoisting keeps -/

theorem unmarked_mark {r : Registry} {literal : Text} {u : Usage}
    (hu : r.table.get? literal = some u) :
    (r.mark literal u).table.entries.map (Prod.map id Usage.unmarked) =
      r.table.entries.map (Prod.map id Usage.unmarked) :=
  Entries.map_put hu rfl

theorem hoist_keeps (threshold : Nat) (r : Registry) :
    (r.hoist threshold).1.store.light = r.store.light ∧
      (r.hoist threshold).1.store.dark = r.store.dark ∧
      (r.hoist threshold).1.table.entries.map (Prod.map id Usage.unmarked) =
        r.table.entries.map (Prod.map id Usage.unmarked) := by
  refine hoist_induction (P := fun r' => r'.store.light = r.store.light ∧
    r'.store.dark = r.store.dark ∧ r'.table.entries.map (Prod.map id Usage.unmarked) =
      r.table.entries.map (Prod.map id Usage.unmarked)) ?_ ⟨rfl, rfl, rfl⟩
  rintro r' literal u hu ⟨hlight, hdark, htable⟩
  have hmark := (unmarked_mark hu).trans htable
  rcases promote_cases threshold r' literal u with he | ⟨_, _, _, _, ⟨_, he⟩ | ⟨_, he⟩⟩
  · rw [he]
    exact ⟨hlight, hdark, htable⟩
  · rw [he]
    exact ⟨hlight, hdark, hmark⟩
  · rw [he]
    exact ⟨hlight, hdark, hmark⟩

/-! ## The marks -/

/-- A literal is settled in a root that binds one of its frequent references to it. -/
def IsSettled (threshold : Nat) (root : Bindings) (u : Usage) : Prop :=
  ∃ use ∈ u.uses.entries, threshold ≤ use.2 ∧ root.get? (ofReference use.1) = some u.value

theorem IsSettled.mono {root root' : Bindings} {u : Usage} (h : IsSettled threshold root u)
    (hroot : ∀ n v, root.get? n = some v → root'.get? n = some v) :
    IsSettled threshold root' u := by
  obtain ⟨use, huse, hcount, hname⟩ := h
  exact ⟨use, huse, hcount, hroot _ _ hname⟩

theorem isSettled_promote {r : Registry} {literal : Text} {u u' : Usage}
    (hu : r.table.get? literal = some u)
    (hu' : (promote threshold r literal u).1.table.get? literal = some u')
    (hmarked : u'.promoted = true) (hfresh : u.promoted = false) :
    IsSettled threshold (promote threshold r literal u).1.store.root u' := by
  have hmark : ∀ v, (r.mark literal u).table.get? literal = some v →
      v = { u with promoted := true } := by
    intro v hv
    rw [get?_mark, if_pos rfl] at hv
    exact (Option.some.inj hv).symm
  rcases promote_cases threshold r literal u with
    he | ⟨reference, count, hcount, hle, ⟨hroot, he⟩ | ⟨hfree, he⟩⟩
  · rw [he, hu] at hu'
    rw [← Option.some.inj hu', hfresh] at hmarked
    cases hmarked
  · rw [he] at hu' ⊢
    rw [hmark u' hu']
    exact ⟨(reference, count), OrderedMap.get?_eq_some_iff.mp hcount, hle, hroot⟩
  · rw [he] at hu' ⊢
    rw [hmark u' hu']
    refine ⟨(reference, count), OrderedMap.get?_eq_some_iff.mp hcount, hle, ?_⟩
    exact OrderedMap.get?_insert_self _ _ _

/-- A literal that hoisting marks is settled, or it was marked before. -/
theorem isSettled_hoist {r : Registry} {literal : Text} {u u' : Usage}
    (hu : r.table.get? literal = some u)
    (hu' : (r.hoist threshold).1.table.get? literal = some u') (hmarked : u'.promoted = true)
    (hfresh : u.promoted = false) : IsSettled threshold (r.hoist threshold).1.store.root u' := by
  have hP : ∀ u', (r.hoist threshold).1.table.get? literal = some u' → u'.promoted = true →
      IsSettled threshold (r.hoist threshold).1.store.root u' :=
    hoist_induction (P := fun r' => ∀ u', r'.table.get? literal = some u' → u'.promoted = true →
      IsSettled threshold r'.store.root u') ?_ ?_
  · exact hP u' hu' hmarked
  · intro r' other v hv ih u' hu' hmarked
    have hroot : ∀ n w, r'.store.root.get? n = some w →
        (promote threshold r' other v).1.store.root.get? n = some w :=
      fun n w hw => get?_root_promote hw
    by_cases hother : other = literal
    · subst hother
      cases hmark : v.promoted with
      | false => exact isSettled_promote hv hu' hmarked hmark
      | true =>
        rw [promote_of_isDone (.inl hmark)] at hu' ⊢
        exact ih u' hu' hmarked
    · rw [get?_promote r' v hother] at hu'
      exact (ih u' hu' hmarked).mono hroot
  · intro u' hu' hmarked
    rw [hu] at hu'
    rw [← Option.some.inj hu', hfresh] at hmarked
    cases hmarked

theorem promoted_hoist {r : Registry} {literal : Text} {u u' : Usage}
    (hu : r.table.get? literal = some u)
    (hu' : (r.hoist threshold).1.table.get? literal = some u') (hmarked : u.promoted = true) :
    u'.promoted = true := by
  have hP : ∃ v, (r.hoist threshold).1.table.get? literal = some v ∧ v.promoted = true :=
    hoist_induction (P := fun r' => ∃ v, r'.table.get? literal = some v ∧ v.promoted = true) ?_
      ⟨u, hu, hmarked⟩
  · obtain ⟨v, hv, hpromoted⟩ := hP
    rwa [Option.some.inj (hu'.symm.trans hv)]
  · rintro r' other w hw ⟨v, hv, hpromoted⟩
    refine ⟨v, ?_, hpromoted⟩
    by_cases hother : other = literal
    · subst hother
      obtain rfl := Option.some.inj (hw.symm.trans hv)
      rwa [promote_of_isDone (.inl hpromoted)]
    · rwa [get?_promote r' w hother]

/-- **A literal is marked after hoisting when it was before, or when it is settled.** -/
theorem promoted_hoist_iff {r : Registry} {literal : Text} {u u' : Usage}
    (hu : r.table.get? literal = some u)
    (hu' : (r.hoist threshold).1.table.get? literal = some u') :
    u'.promoted = true ↔
      u.promoted = true ∨ IsSettled threshold (r.hoist threshold).1.store.root u' := by
  constructor
  · intro hmarked
    cases hfresh : u.promoted with
    | true => exact .inl rfl
    | false => exact .inr (isSettled_hoist hu hu' hmarked hfresh)
  · rintro (hmarked | ⟨use, huse, hcount, hname⟩)
    · exact promoted_hoist hu hu' hmarked
    · rcases isDone_hoist hu' with hmarked | hnone
      · exact hmarked
      · refine absurd ⟨hcount, ?_⟩ (candidate?_eq_none_iff.mp hnone use huse)
        intro current hcurrent
        exact Option.some.inj (hcurrent.symm.trans hname)

/-! ## Hoisting -/

/-- One registry is another one after promotions: the other modes and the table stay as they are,
marks aside, the root has the bindings of the promotions behind its own, and no literal that is
left without a mark could take a reference. -/
structure Hoists (threshold : Nat) (r r' : Registry) (promotions : List Promotion) : Prop where
  light : r'.store.light = r.store.light
  dark : r'.store.dark = r.store.dark
  table : r'.table.entries.map (Prod.map id Usage.unmarked) =
    r.table.entries.map (Prod.map id Usage.unmarked)
  root : r'.store.root.entries = r.store.root.entries ++ promotions.map Promotion.binding
  promotes : Promotes threshold r.store.root.entries r.table.entries promotions
  once : (promotions.map Promotion.literal).Nodup
  marked : ∀ literal u u', r.table.get? literal = some u → r'.table.get? literal = some u' →
    (u'.promoted = true ↔ u.promoted = true ∨ IsSettled threshold r'.store.root u')
  left : ∀ literal u, r'.table.get? literal = some u → u.promoted = false →
    ∀ use ∈ u.uses.entries, ¬ IsEligible threshold r'.store.root.entries u.value use

theorem Promotes.nodup {bindings : List (Text × Text)} {entries : List (Text × Usage)}
    {promotions : List Promotion} (h : Promotes threshold bindings entries promotions)
    (hentries : (Entries.keys entries).Nodup) : (promotions.map Promotion.literal).Nodup := by
  have hsub := (h.ordered.map Prod.fst).nodup hentries
  rwa [List.map_map] at hsub

/-- **Hoisting promotes exactly the right references.** The names that it gives back are those that
it adds to the root, in order and without repetition, and a second time there is nothing to do. -/
theorem exists_hoists (threshold : Nat) (r : Registry) :
    ∃ promotions, Hoists threshold r (r.hoist threshold).1 promotions ∧
      (r.hoist threshold).2 = promotions.map Promotion.name ∧ (r.hoist threshold).2.Nodup ∧
      (r.hoist threshold).1.hoist threshold = ((r.hoist threshold).1, []) := by
  obtain ⟨promotions, hpromotes, hroot, hnames⟩ :=
    exists_promotes threshold r r.table.entries
  obtain ⟨hlight, hdark, htable⟩ := hoist_keeps threshold r
  refine ⟨promotions, ?_, hnames, ?_, hoist_hoist r⟩
  · refine ⟨hlight, hdark, htable, hroot, hpromotes, hpromotes.nodup r.table.nodup_keys, ?_, ?_⟩
    · intro literal u u' hu hu'
      exact promoted_hoist_iff hu hu'
    · intro literal u hu hfresh
      rcases isDone_hoist hu with hmarked | hnone
      · rw [hfresh] at hmarked
        cases hmarked
      · exact candidate?_eq_none_iff.mp hnone
  · have hkeys := (r.hoist threshold).1.store.root.nodup_keys
    have hbindings : (promotions.map Promotion.binding).Sublist
        (r.hoist threshold).1.store.root.entries := by
      rw [show (r.hoist threshold).1.store.root.entries = _ from hroot]
      exact List.sublist_append_right _ _
    have hsub := (hbindings.map Prod.fst).nodup hkeys
    rw [List.map_map] at hsub
    rw [show (r.hoist threshold).2 = _ from hnames]
    exact hsub

end Registry

end ThemedCss
