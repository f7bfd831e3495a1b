import ThemedCss.Proofs.Variable.Closed

/-!
# Balanced parentheses

A text with balanced parentheses closes every reference that it opens, whatever else stands in it.

* `IsBalanced`: as many parentheses are opened as closed, and none is closed before it is opened;
* **`isBalanced_iff_count`**: the numbers of parentheses in a balanced text;
* `depthBehind?_intercalate`, `foldlM_of_isBalanced`: the parentheses of joined texts;
* `closingSplit?_isSome`: what stands deeper than the end of a text is closed in it;
* **`isClosed_of_isBalanced`**: a balanced text closes what it opens.
-/

namespace ThemedCss.Variable

/-- As many parentheses are opened as closed, and none is closed before it is opened. -/
def IsBalanced (t : Text) : Prop := depthBehind? 0 t = some 0

instance : DecidablePred IsBalanced :=
  fun t => inferInstanceAs (Decidable (depthBehind? 0 t = some 0))

variable {s t : Text} {ts : List Text} {separator : Text} {depth : Nat}

/-! ## Balanced texts -/

namespace IsBalanced

theorem depthBehind?_eq (h : IsBalanced t) (depth : Nat) : depthBehind? depth t = some depth := by
  have hadd := depthBehind?_add h depth
  rwa [Nat.zero_add] at hadd

theorem of_not_mem (hopen : '(' ∉ t) (hclose : ')' ∉ t) : IsBalanced t :=
  depthBehind?_of_not_mem 0 hopen hclose

theorem of_blank (h : ∀ c ∈ t, Text.isBlank c = true) : IsBalanced t := by
  refine of_not_mem ?_ ?_
  · intro hmem
    exact absurd (h _ hmem) (by decide)
  · intro hmem
    exact absurd (h _ hmem) (by decide)

theorem append (hs : IsBalanced s) (ht : IsBalanced t) : IsBalanced (s ++ t) := by
  rw [IsBalanced, depthBehind?_append, hs, Option.bind_some]
  exact ht

theorem depthBehind?_append_left (h : IsBalanced s) (depth : Nat) (t : Text) :
    depthBehind? depth (s ++ t) = depthBehind? depth t := by
  rw [depthBehind?_append, h.depthBehind?_eq, Option.bind_some]

theorem depthBehind?_append_right (h : IsBalanced t) (depth : Nat) (s : Text) :
    depthBehind? depth (s ++ t) = depthBehind? depth s := by
  rw [depthBehind?_append]
  cases depthBehind? depth s with
  | none => rfl
  | some d => exact h.depthBehind?_eq d

end IsBalanced

theorem depthAfter?_eq_some_iff {c : Char} {d : Nat} :
    depthAfter? depth c = some d ↔ [c].count ')' + d = [c].count '(' + depth := by
  unfold depthAfter?
  by_cases hopen : c = '('
  · subst hopen
    simp
    omega
  by_cases hclose : c = ')'
  · subst hclose
    simp
    omega
  · simp [hopen, hclose, eq_comm]

/-- The depth behind a text is the number of parentheses that it leaves open, and no part at its
front closes more than are open. -/
theorem depthBehind?_eq_some_iff {d : Nat} : depthBehind? depth t = some d ↔
    t.count ')' + d = t.count '(' + depth ∧
      ∀ p, p <+: t → p.count ')' ≤ p.count '(' + depth := by
  induction t generalizing depth with
  | nil =>
    have hnil : depthBehind? depth [] = some depth := rfl
    rw [hnil, Option.some.injEq]
    refine ⟨fun h => ⟨by simp [h], fun p hp => ?_⟩, fun h => by simpa using h.1.symm⟩
    obtain rfl := List.prefix_nil.mp hp
    exact Nat.zero_le _
  | cons c t ih =>
    have hcons (x : Char) (u : Text) : (c :: u).count x = [c].count x + u.count x := by
      rw [← List.count_append, List.singleton_append]
    rw [depthBehind?_cons, Option.bind_eq_some_iff]
    simp only [depthAfter?_eq_some_iff, ih]
    rw [hcons ')' t, hcons '(' t]
    constructor
    · rintro ⟨e, hc, hsum, hprefix⟩
      refine ⟨by omega, fun p hp => ?_⟩
      rcases List.prefix_cons_iff.mp hp with rfl | ⟨q, rfl, hq⟩
      · exact Nat.zero_le _
      · have := hprefix q hq
        rw [hcons ')' q, hcons '(' q]
        omega
    · rintro ⟨hsum, hprefix⟩
      have hc := hprefix [c] (List.prefix_append [c] t)
      refine ⟨[c].count '(' + depth - [c].count ')', by omega, by omega, fun p hp => ?_⟩
      have := hprefix (c :: p) (List.cons_prefix_cons.mpr ⟨rfl, hp⟩)
      rw [hcons ')' p, hcons '(' p] at this
      omega

/-- **A text is balanced when it opens as many parentheses as it closes, and no part at its front
closes more than it opens.** -/
theorem isBalanced_iff_count : IsBalanced t ↔
    t.count '(' = t.count ')' ∧ ∀ p, p <+: t → p.count ')' ≤ p.count '(' := by
  rw [IsBalanced, depthBehind?_eq_some_iff, eq_comm (a := t.count ')' + 0)]
  rfl

/-! ## Joined texts -/

theorem depthBehind?_intercalate (h : IsBalanced separator) (depth : Nat) (ts : List Text) :
    depthBehind? depth (List.intercalate separator ts) = ts.foldlM depthBehind? depth := by
  induction ts generalizing depth with
  | nil => rfl
  | cons t ts ih =>
    rw [List.foldlM_cons]
    cases ts with
    | nil =>
      rw [List.intercalate_singleton]
      cases depthBehind? depth t <;> rfl
    | cons u us =>
      rw [List.intercalate_cons_of_ne_nil (List.cons_ne_nil u us), List.append_assoc,
        depthBehind?_append]
      refine Option.bind_congr fun d _ => ?_
      rw [h.depthBehind?_append_left, ih]

theorem foldlM_of_isBalanced (h : ∀ t ∈ ts, IsBalanced t) (depth : Nat) :
    ts.foldlM depthBehind? depth = some depth := by
  induction ts with
  | nil => rfl
  | cons t ts ih =>
    rw [List.foldlM_cons, (h t List.mem_cons_self).depthBehind?_eq]
    exact ih fun u hu => h u (List.mem_cons_of_mem t hu)

theorem IsBalanced.intercalate (hseparator : IsBalanced separator) (h : ∀ t ∈ ts, IsBalanced t) :
    IsBalanced (List.intercalate separator ts) :=
  (depthBehind?_intercalate hseparator 0 ts).trans (foldlM_of_isBalanced h 0)

/-! ## Closing what is opened -/

theorem closingSplit?_isSome {outer last : Nat}
    (h : depthBehind? (depth + 1 + outer) t = some last) (hlast : last ≤ outer) :
    (closingSplit? depth t).isSome = true := by
  induction t generalizing depth with
  | nil =>
    have hsame : depth + 1 + outer = last := Option.some.inj h
    omega
  | cons c t ih =>
    rw [closingSplit?_cons]
    by_cases hc : c = ')' ∧ depth = 0
    · rw [if_pos hc]
      rfl
    · rw [if_neg hc, Option.isSome_map]
      rw [depthBehind?_cons] at h
      obtain ⟨d, hd⟩ : ∃ d, depthAfter? depth c = some d := by
        unfold depthAfter?
        grind
      have hadd := depthAfter?_add hd (1 + outer)
      rw [← Nat.add_assoc, ← Nat.add_assoc] at hadd
      rw [hadd, Option.bind_some] at h
      rw [hd, Option.bind_some]
      exact ih h

theorem isClosed_of_depthBehind? (h : depthBehind? depth t = some 0) : IsClosed t := by
  induction t using occurrence_induction generalizing depth with
  | none t hnone =>
    refine (isClosed_of_none hnone).mpr ?_
    rw [Option.isNone_iff_eq_none]
    by_contra hsome
    obtain ⟨⟨before, o, behind⟩, hfirst⟩ := Option.ne_none_iff_exists'.mp hsome
    obtain ⟨-, hopening⟩ := firstOpening?_eq_some hfirst
    obtain ⟨hwritten, -, -⟩ := opening?_eq_some_iff.mp hopening
    -- the opening is one deeper than the text in front of it, and the end is not
    rw [firstOpening?_eq_append hfirst, depthBehind?_append, depthBehind?_append] at h
    obtain ⟨d, hd, hbehind⟩ := Option.bind_eq_some_iff.mp h
    obtain ⟨outer, -, ho⟩ := Option.bind_eq_some_iff.mp hd
    rw [hwritten.depthBehind?_text] at ho
    obtain rfl := Option.some.inj ho
    rw [Nat.add_comm, ← Nat.zero_add 1] at hbehind
    have hclosing := closingSplit?_isSome hbehind (Nat.zero_le outer)
    rw [occurrence?, hfirst] at hnone
    rw [Option.map_eq_none_iff.mp hnone] at hclosing
    cases hclosing
  | some t f hf _ ihRest =>
    obtain ⟨rfl, -⟩ := occurrence?_eq_some_iff.mp hf
    rw [Occurrence.text, depthBehind?_append, depthBehind?_append, depthBehind?_append] at h
    obtain ⟨d, hd, hrest⟩ := Option.bind_eq_some_iff.mp h
    rw [depthBehind?_cons] at hrest
    obtain ⟨d', -, hrest⟩ := Option.bind_eq_some_iff.mp hrest
    exact .behind hf (ihRest hrest)

/-- **A balanced text closes what it opens.** -/
theorem isClosed_of_isBalanced (h : IsBalanced t) : IsClosed t := isClosed_of_depthBehind? h

end ThemedCss.Variable
