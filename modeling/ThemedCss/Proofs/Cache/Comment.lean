import Mathlib.Data.List.Basic
import ThemedCss.Cache

/-!
# Comments with metadata

Metadata are written in a comment behind a text, and looked for from the first place where a comment
opens. They are found again just when no comment opens in the text itself.

* `splitOpening?_eq_none_iff`, `splitOpening?_eq_append`, `length_le_of_splitOpening?`: the first
  opening of a comment;
* `splitOpening?_append_opening`: an opening behind a text in which no comment opens is the first one;
* `comment?_eq_some`, `comment?_eq_none_iff`: the comment at the end of a text;
* `exists_comment?_withMetadata`: the comment that is found holds the metadata at its end;
* `Separable`: whether a text can be told from what is put behind it;
* **`read_withMetadata_iff`**: when a text is read as it was written.
-/

namespace ThemedCss.Cache

/-- What opens a comment. -/
def opening : Text := "<!--"

/-- What ends a comment. -/
def ending : Text := "-->"

variable {t u a b css metadata : Text}

/-! ## The first opening -/

theorem splitOpening?_cons (c : Char) (t : Text) : splitOpening? (c :: t) =
    match opening.isPrefixOf? (c :: t) with
    | some rest => some ([], rest)
    | none => (splitOpening? t).map fun (before, rest) => (c :: before, rest) := rfl

theorem isPrefixOf?_opening_eq_none_iff : opening.isPrefixOf? t = none ↔ ¬ opening <+: t := by
  rw [Option.eq_none_iff_forall_ne_some]
  constructor
  · rintro h ⟨r, hr⟩
    exact h r (List.isPrefixOf?_eq_some_iff_append_eq.mpr hr)
  · intro h r hr
    exact h ⟨r, List.isPrefixOf?_eq_some_iff_append_eq.mp hr⟩

theorem splitOpening?_eq_none_iff : splitOpening? t = none ↔ ¬ opening <:+: t := by
  induction t with
  | nil => exact iff_of_true rfl (by decide)
  | cons c t ih =>
    rw [List.infix_cons_iff, not_or, ← ih, ← isPrefixOf?_opening_eq_none_iff, splitOpening?_cons]
    cases opening.isPrefixOf? (c :: t) with
    | some rest => exact iff_of_false nofun fun h => nomatch h.1
    | none => exact Option.map_eq_none_iff.trans ⟨fun h => ⟨rfl, h⟩, fun h => h.2⟩

theorem splitOpening?_eq_append (h : splitOpening? t = some (a, b)) : t = a ++ (opening ++ b) := by
  induction t generalizing a with
  | nil => cases h
  | cons c t ih =>
    rw [splitOpening?_cons] at h
    cases hp : opening.isPrefixOf? (c :: t) with
    | some rest =>
      rw [hp] at h
      cases h
      exact (List.isPrefixOf?_eq_some_iff_append_eq.mp hp).symm
    | none =>
      rw [hp] at h
      obtain ⟨⟨before, rest⟩, hsplit, he⟩ := Option.map_eq_some_iff.mp h
      cases he
      exact congrArg (c :: ·) (ih hsplit)

theorem exists_splitOpening? (t u : Text) :
    ∃ a b, splitOpening? (t ++ (opening ++ u)) = some (a, b) := by
  have hsome : splitOpening? (t ++ (opening ++ u)) ≠ none := by
    rw [ne_eq, splitOpening?_eq_none_iff, Classical.not_not]
    exact ⟨t, u, List.append_assoc t opening u⟩
  obtain ⟨⟨a, b⟩, hab⟩ := Option.ne_none_iff_exists'.mp hsome
  exact ⟨a, b, hab⟩

theorem length_le_of_splitOpening? (h : splitOpening? (t ++ (opening ++ u)) = some (a, b)) :
    a.length ≤ t.length := by
  induction t generalizing a with
  | nil =>
    have hp : opening.isPrefixOf? (opening ++ u) = some u := List.isPrefixOf?_eq_some_iff_append_eq.mpr rfl
    obtain ⟨c, s, hs⟩ : ∃ c s, opening ++ u = c :: s := ⟨_, _, rfl⟩
    rw [List.nil_append, hs, splitOpening?_cons, ← hs, hp] at h
    cases h
    exact Nat.le_refl 0
  | cons c t ih =>
    rw [List.cons_append, splitOpening?_cons] at h
    cases hp : opening.isPrefixOf? (c :: (t ++ (opening ++ u))) with
    | some rest =>
      rw [hp] at h
      cases h
      exact Nat.zero_le _
    | none =>
      rw [hp] at h
      obtain ⟨⟨before, rest⟩, hsplit, he⟩ := Option.map_eq_some_iff.mp h
      cases he
      exact Nat.succ_le_succ (ih hsplit)

theorem opening_prefix_of_append (hne : t ≠ []) (h : opening <+: t ++ (opening ++ u)) :
    opening <+: t := by
  obtain ⟨r, hr⟩ := h
  rcases List.append_eq_append_iff.mp hr with ⟨s, hs, -⟩ | ⟨s, hs, hs'⟩
  · exact ⟨s, hs.symm⟩
  · cases s with
    | nil =>
      rw [List.append_nil] at hs
      exact hs ▸ List.prefix_refl _
    | cons c s =>
      -- the rest of the opening would start with its first code point, which does not come again
      obtain ⟨d, t, rfl⟩ := List.exists_cons_of_ne_nil hne
      have hc : c = '<' := (List.cons.inj hs').1.symm
      have hmem : c ∈ opening.tail := by
        rw [hs]
        exact List.mem_append_right t List.mem_cons_self
      rw [hc] at hmem
      exact absurd hmem (by decide)

/-- **Behind a text in which no comment opens, an opening is the first one.** -/
theorem splitOpening?_append_opening (h : ¬ opening <:+: t) (u : Text) :
    splitOpening? (t ++ (opening ++ u)) = some (t, u) := by
  obtain ⟨a, b, hab⟩ := exists_splitOpening? t u
  have heq := splitOpening?_eq_append hab
  have hprefix : a <+: t := List.prefix_of_prefix_length_le ⟨_, heq.symm⟩ ⟨_, rfl⟩
    (length_le_of_splitOpening? hab)
  obtain ⟨s, rfl⟩ := hprefix
  rw [List.append_assoc] at heq
  have hopening : opening ++ b = s ++ (opening ++ u) := (List.append_cancel_left heq).symm
  cases s with
  | nil =>
    obtain rfl : b = u := List.append_cancel_left hopening
    rw [hab, List.append_nil]
  | cons c s =>
    have hs : opening <+: c :: s := opening_prefix_of_append (List.cons_ne_nil c s) ⟨b, hopening⟩
    exact absurd (hs.isInfix.trans (List.suffix_append a (c :: s)).isInfix) h

/-! ## The comment at the end of a text -/

theorem beforeEnd?_eq_some_iff : beforeEnd? t = some u ↔ t = u ++ ending := by
  unfold beforeEnd?
  rw [Option.map_eq_some_iff]
  constructor
  · rintro ⟨r, hr, rfl⟩
    have ht := congrArg List.reverse (List.isPrefixOf?_eq_some_iff_append_eq.mp hr)
    rw [List.reverse_reverse, List.reverse_append, List.reverse_reverse] at ht
    exact ht.symm
  · rintro rfl
    refine ⟨u.reverse, List.isPrefixOf?_eq_some_iff_append_eq.mpr ?_, List.reverse_reverse u⟩
    exact List.reverse_append.symm

theorem comment?_append_ending (t : Text) : comment? (t ++ ending) = splitOpening? t := by
  rw [comment?, beforeEnd?_eq_some_iff.mpr rfl]
  rfl

theorem comment?_eq_some (h : comment? t = some (a, b)) : t = a ++ (opening ++ b) ++ ending := by
  obtain ⟨u, hu, hsplit⟩ := Option.bind_eq_some_iff.mp h
  rw [beforeEnd?_eq_some_iff.mp hu, ← splitOpening?_eq_append hsplit]

theorem comment?_eq_none_iff : comment? t = none ↔ ¬ ∃ a b, t = a ++ (opening ++ b) ++ ending := by
  constructor
  · rintro h ⟨a, b, rfl⟩
    rw [comment?_append_ending, splitOpening?_eq_none_iff] at h
    exact h ⟨a, b, List.append_assoc a opening b⟩
  · intro h
    rw [Option.eq_none_iff_forall_ne_some]
    exact fun ⟨a, b⟩ hab => h ⟨a, b, comment?_eq_some hab⟩

theorem length_lt_of_comment? (h : comment? t = some (a, b)) : a.length < t.length := by
  have hlength := congrArg List.length (comment?_eq_some h)
  have hopening : opening.length = 4 := rfl
  rw [List.length_append, List.length_append, List.length_append] at hlength
  omega

/-! ## Texts with metadata -/

theorem withMetadata_of_ne_nil (css : Text) (h : metadata ≠ []) :
    withMetadata css metadata = css ++ (opening ++ metadata) ++ ending := by
  rw [withMetadata, if_neg h, opening, ending]
  simp only [List.append_assoc]

theorem comment?_withMetadata (h : ¬ opening <:+: css) (hne : metadata ≠ []) :
    comment? (withMetadata css metadata) = some (css, metadata) := by
  rw [withMetadata_of_ne_nil css hne, comment?_append_ending, splitOpening?_append_opening h]

/-- **The comment that is found behind a text ends with the metadata**, whatever opens in the text. -/
theorem exists_comment?_withMetadata (css : Text) (hne : metadata ≠ []) :
    ∃ a b, comment? (withMetadata css metadata) = some (a, b) ∧ metadata <:+ b := by
  rw [withMetadata_of_ne_nil css hne, comment?_append_ending]
  obtain ⟨a, b, hab⟩ := exists_splitOpening? css metadata
  refine ⟨a, b, hab, ?_⟩
  have heq := splitOpening?_eq_append hab
  have hle := length_le_of_splitOpening? hab
  have hlength := congrArg List.length heq
  simp only [List.length_append] at hlength
  refine List.suffix_of_suffix_length_le ⟨css ++ opening, List.append_assoc css opening metadata⟩
    ⟨a ++ opening, ?_⟩ (by omega)
  rw [List.append_assoc, heq]

/-- Whether a text can be told from what is put behind it: no comment opens in it when metadata are,
and it has no comment at its end when none are. -/
def Separable (css metadata : Text) : Prop :=
  if metadata = [] then ¬ ∃ a b, css = a ++ (opening ++ b) ++ ending else ¬ opening <:+: css

instance : Decidable (Separable css metadata) :=
  decidable_of_iff (if metadata = [] then comment? css = none else splitOpening? css = none) (by
    unfold Separable
    split
    · exact comment?_eq_none_iff
    · exact splitOpening?_eq_none_iff)

/-- **A text is read as it was written exactly when it can be told from what is put behind it**, and
then the metadata are, too. -/
theorem read_withMetadata_iff (css metadata : Text) :
    let found := comment? (withMetadata css metadata)
    ((found.map Prod.fst).getD (withMetadata css metadata) = css ↔ Separable css metadata) ∧
      (Separable css metadata → (found.map Prod.snd).getD [] = metadata) := by
  intro found
  unfold Separable
  by_cases hm : metadata = []
  · subst hm
    have hwritten : withMetadata css [] = css := if_pos rfl
    rw [if_pos rfl, ← comment?_eq_none_iff]
    simp only [found, hwritten]
    cases hfound : comment? css with
    | none => exact ⟨iff_of_true rfl rfl, fun _ => rfl⟩
    | some ab =>
      have hne : ab.1 ≠ css := fun he =>
        absurd (length_lt_of_comment? hfound) (he ▸ Nat.lt_irrefl ab.1.length)
      exact ⟨iff_of_false hne nofun, nofun⟩
  · rw [if_neg hm]
    obtain ⟨a, b, hab, -⟩ := exists_comment?_withMetadata css hm
    simp only [found, hab, Option.map_some, Option.getD_some]
    by_cases ho : opening <:+: css
    · refine ⟨iff_of_false (fun he => ?_) (Classical.not_not.mpr ho), fun h => absurd ho h⟩
      -- the comment would have to open behind an opening
      subst he
      obtain ⟨x, y, hxy⟩ := ho
      have hfirst : a ++ (opening ++ metadata) = x ++ (opening ++ (y ++ (opening ++ metadata))) := by
        rw [← hxy, List.append_assoc, List.append_assoc]
      rw [withMetadata_of_ne_nil a hm, comment?_append_ending, hfirst] at hab
      have hle := length_le_of_splitOpening? hab
      have hlength := congrArg List.length hxy
      have hopening : opening.length = 4 := rfl
      rw [List.length_append, List.length_append] at hlength
      omega
    · rw [comment?_withMetadata ho hm] at hab
      cases hab
      exact ⟨iff_of_true rfl ho, fun _ => rfl⟩

end ThemedCss.Cache
