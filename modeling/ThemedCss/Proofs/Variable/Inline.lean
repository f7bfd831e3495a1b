import ThemedCss.Proofs.Variable.Balanced
import ThemedCss.Proofs.Variable.Uses

/-!
# References as they are written inline

A reference is written with its fallback in one place and read in another. The name that is written
may hold any code point of a key; the one that is read holds letters, digits, hyphens and
underscores alone.

* `Traverses.append_var`: a text that closes what it opens, and one behind it that starts with
  `var(`;
* `IsOutside`, `isClosed_of_isOutside`: places that lie outside all references of a text;
* `occurrence?_inline`: an inline reference is read as it is written when its name can be;
* `IsRecognised`, **`isRecognised_inline`**: wherever it stands, it is counted once, and shortened
  as soon as the root holds its fallback;
* `IsUnread`, **`isUnread_of_not_isNameChar`**: a name that cannot be read is never counted, and no
  text is shortened on its account.
-/

namespace ThemedCss

open Variable

namespace Variable

variable {before more t y n d : Text} {f : Occurrence}

/-! ## In front of another reference -/

theorem IsClear.left (h : IsClear (before ++ more) t) : IsClear before (more ++ t) := by
  intro b hb hsuffix
  obtain ⟨a, rfl⟩ := hsuffix
  rw [← List.append_assoc]
  exact h (b ++ more) (List.append_ne_nil_of_left_ne_nil hb more) ⟨a, by simp⟩

/-- **A text that closes what it opens is gone through by itself** in front of `var(`. -/
theorem Traverses.append_var {α : Type} {F between : Text → List α}
    {each : Opening → Text → List α} (h : Traverses F between each) (hclosed : IsClosed before)
    (y : Text) : F (before ++ ("var(" ++ y)) = F before ++ F ("var(" ++ y) := by
  induction hclosed with
  | clear hclear =>
    rw [h.append (isClear_var_iff.mpr hclear), h.of_none (occurrence?_of_isClear hclear)]
  | behind hf _ ih =>
    rw [h.of_some hf, h.of_some (occurrence?_behind hf _), ih]
    simp only [List.append_assoc]

/-! ## Places outside references -/

/-- Whether a place in a text, counted in code points, lies inside none of its references. -/
def IsOutside (place : Nat) (t : Text) : Prop :=
  ∀ ref ∈ references t, place ≤ ref.start ∨ ref.stop ≤ place

theorem isClear_of_length_le (hf : occurrence? (before ++ ("var(" ++ y)) = some f)
    (hle : before.length ≤ f.before.length) : IsClear before [] := by
  obtain ⟨htext, -, -, -, hclear⟩ := occurrence?_eq_some_iff.mp hf
  rw [Occurrence.text, List.append_assoc, List.append_assoc] at htext
  obtain ⟨more, hmore⟩ : before <+: f.before :=
    List.prefix_of_prefix_length_le ⟨_, rfl⟩ ⟨_, htext.symm⟩ hle
  rw [← hmore] at hclear htext
  rw [List.append_assoc, List.append_cancel_left_eq] at htext
  have hleft := hclear.left
  rw [← htext] at hleft
  exact isClear_var_iff.mp hleft

theorem isClosed_of_isOutside_from {offset : Nat} (h : IsClosed (before ++ ("var(" ++ y)))
    (hout : ∀ ref ∈ referencesFrom offset (before ++ ("var(" ++ y)),
      offset + before.length ≤ ref.start ∨ ref.stop ≤ offset + before.length) :
    IsClosed before := by
  generalize ht : before ++ ("var(" ++ y) = t at h hout
  induction h generalizing before offset with
  | clear h =>
    subst ht
    have hleft := h.left
    rw [List.append_nil] at hleft
    exact .clear (isClear_var_iff.mp hleft)
  | @behind t f hf _ ih =>
    subst ht
    rw [referencesFrom_of_some offset hf, List.forall_mem_cons] at hout
    obtain ⟨hstart | hstop, hout⟩ := hout
    · -- the place comes before the first reference
      exact .clear (isClear_of_length_le hf (Nat.le_of_add_le_add_left hstart))
    · -- it comes behind the first reference
      obtain ⟨rest, rfl, hrest, hbefore⟩ :=
        exists_rest_of_length_le hf (Nat.le_of_add_le_add_left hstop)
      rw [List.length_append, ← Nat.add_assoc] at hout
      exact .behind hbefore (ih hrest.symm hout)

theorem isClosed_of_isOutside (h : IsClosed (before ++ ("var(" ++ y)))
    (hout : IsOutside before.length (before ++ ("var(" ++ y))) : IsClosed before := by
  have hplace : ∀ ref ∈ referencesFrom 0 (before ++ ("var(" ++ y)),
      0 + before.length ≤ ref.start ∨ ref.stop ≤ 0 + before.length := by
    rw [Nat.zero_add]
    exact hout
  exact isClosed_of_isOutside_from h hplace

/-! ## Inline references -/

/-- The opening of an inline reference. -/
def inlineOpening (n : Text) : Opening := ⟨"var(" ++ ofReference n ++ ", ", n⟩

theorem isWritten_inlineOpening (hne : n ≠ []) (hname : ∀ c ∈ n, isNameChar c = true) :
    (inlineOpening n).IsWritten := by
  have hblank : ∀ c ∈ (" " : Text), Text.isBlank c = true := List.forall_mem_singleton.mpr rfl
  refine ⟨hne, hname, [], [], " ", List.forall_mem_nil _, List.forall_mem_nil _, hblank, ?_⟩
  unfold inlineOpening ofReference
  simp only [List.append_assoc, List.nil_append]
  rfl

theorem inlineReference_append (n d t : Text) :
    inlineReference n d ++ t = (inlineOpening n).text ++ (d ++ ')' :: t) := by
  unfold inlineReference inlineOpening
  simp only [List.append_assoc]
  rfl

/-- **An inline reference is read as it is written**, when its name can be read and its fallback has
balanced parentheses and no blanks at its ends. -/
theorem occurrence?_inline (hne : n ≠ []) (hname : ∀ c ∈ n, isNameChar c = true)
    (hbalanced : IsBalanced d) (hstrip : Text.strip d = d) (t : Text) :
    occurrence? (inlineReference n d ++ t) = some ⟨[], inlineOpening n, d, t⟩ := by
  refine occurrence?_eq_some_iff.mpr ⟨?_, isWritten_inlineOpening hne hname, hbalanced, ?_, ?_⟩
  · rw [inlineReference_append, Occurrence.text, List.nil_append, List.append_assoc]
  · intro c hc
    cases d with
    | nil =>
      obtain rfl : ')' = c := Option.some.inj hc
      decide
    | cons e d => exact (Text.strip_eq_self_iff.mp hstrip).1 c hc
  · intro b hb hsuffix
    exact absurd (List.suffix_nil.mp hsuffix) hb

end Variable

/-- Whether a text is recognised as a reference with a fallback wherever it stands outside all other
references of a text that closes what it opens: it is counted once there, with the references in its
fallback, and it is replaced by the reference without a fallback, and nothing else is on its
account, when the root holds the fallback. -/
def IsRecognised (x n d : Text) : Prop :=
  ∀ before after, IsClosed (before ++ x ++ after) → IsOutside before.length (before ++ x ++ after) →
    (∀ r : Registry, r.scan (before ++ x ++ after) =
      ((((r.scan before).track n d).scan d).scan after)) ∧
    ∀ root : Bindings, root.get? (ofReference n) = some d →
      shorten root (before ++ x ++ after) =
        shorten root before ++ bareReference n ++ shorten root after

variable {n d v t : Text}

/-- **Inline references are recognised when their names can be read.** -/
theorem isRecognised_inline (hne : n ≠ []) (hname : ∀ c ∈ n, isNameChar c = true)
    (hbalanced : IsBalanced d) (hstrip : Text.strip d = d) :
    IsRecognised (inlineReference n d) n d := by
  intro before after hclosed hout
  have hvar : inlineReference n d ++ after =
      "var(" ++ (ofReference n ++ ", " ++ d ++ ")" ++ after) := by
    unfold inlineReference
    simp only [List.append_assoc]
  have hread := occurrence?_inline hne hname hbalanced hstrip after
  rw [List.append_assoc, hvar] at hclosed hout
  have hbefore := isClosed_of_isOutside hclosed hout
  rw [List.append_assoc, hvar]
  constructor
  · intro r
    have hall := traverses_allReferences.append_var hbefore (ofReference n ++ ", " ++ d ++ ")" ++ after)
    rw [← hvar, allReferences_of_some hread, hstrip] at hall
    rw [← hvar, Registry.scan, hall, List.foldl_append, List.foldl_append, List.foldl_cons]
    rfl
  · intro root hholds
    have hroot : root.Holds ⟨[], inlineOpening n, d, after⟩ := by
      rw [Bindings.Holds, hstrip]
      exact hholds
    rw [(traverses_shorten root).append_var hbefore, ← hvar, shorten_of_some root hread, if_pos hroot,
      List.nil_append, ← List.append_assoc]
    rfl

/-! ## Names that cannot be read -/

/-- Whether nothing comes of a name: no text counts a use behind it, and no text is shortened on
account of a root variable with it. -/
def IsUnread (n : Text) : Prop :=
  ∀ v t, (∀ r : Registry, (r.scan t).table.usesOf n v = r.table.usesOf n v) ∧
    ∀ root : Bindings, shorten (root.insert (ofReference n) v) t = shorten root t

theorem shorten_insert (hname : ¬ ∀ c ∈ n, isNameChar c = true) (root : Bindings) (v t : Text) :
    shorten (root.insert (ofReference n) v) t = shorten root t := by
  induction t using occurrence_induction with
  | none t h => rw [shorten_of_none _ h, shorten_of_none _ h]
  | some t f h ihFallback ihRest =>
    obtain ⟨-, hwritten, -⟩ := occurrence?_eq_some_iff.mp h
    have hne : ofReference n ≠ ofReference f.opening.name := by
      intro heq
      rw [List.append_cancel_left heq] at hname
      exact hname hwritten.2.1
    have hholds : Bindings.Holds (root.insert (ofReference n) v) f ↔ root.Holds f := by
      rw [Bindings.Holds, Bindings.Holds, OrderedMap.get?_insert, if_neg hne]
    rw [shorten_of_some _ h, shorten_of_some _ h, ihFallback, ihRest]
    simp only [hholds]

theorem usesOf_scan (hname : ¬ ∀ c ∈ n, isNameChar c = true) (r : Registry) (v t : Text) :
    (r.scan t).table.usesOf n v = r.table.usesOf n v := by
  have hcount : (allReferences t).count (n, v) = 0 :=
    List.count_eq_zero.mpr fun hmem => hname (mem_of_mem_allReferences hmem).1
  rw [Registry.scan_eq]
  exact (UsageTable.usesOf_trackAll _ _ _ _).trans (by rw [hcount, Nat.add_zero])

/-- **Nothing comes of a name that cannot be read.** -/
theorem isUnread_of_not_isNameChar (hname : ¬ ∀ c ∈ n, isNameChar c = true) : IsUnread n := by
  intro v t
  exact ⟨fun r => usesOf_scan hname r v t, fun root => shorten_insert hname root v t⟩

end ThemedCss
