import Mathlib.Data.List.TakeWhile
import ThemedCss.Text.Blank

/-!
# Stripping blanks

* `strip_append_of_blank`, `strip_append_blanks`: blanks at the ends do not matter;
* `strip_strip`: a stripped text is left as it is;
* `exists_eq_append_strip`, `strip_ne_nil_iff`: what stripping takes away, and when something is
  left;
* **`strip_eq_self_iff`**: the texts that stripping leaves as they are neither start nor end with a
  blank.
-/

namespace ThemedCss.Text

variable {s t : Text} {c : Char}

theorem isBlank_of_mem_indent (h : ∀ c ∈ t, c = ' ' ∨ c = '\t') : ∀ c ∈ t, isBlank c = true := by
  intro c hc
  rcases h c hc with rfl | rfl <;> decide

/-! ## One end at a time -/

theorem stripLeft_cons_of_blank (h : isBlank c = true) (t : Text) :
    stripLeft (c :: t) = stripLeft t :=
  List.dropWhile_cons_of_pos h

theorem stripLeft_cons_of_not_blank (h : isBlank c = false) (t : Text) :
    stripLeft (c :: t) = c :: t :=
  List.dropWhile_cons_of_neg (by rw [h]; exact Bool.false_ne_true)

theorem stripLeft_eq_self_iff : stripLeft t = t ↔ ∀ c ∈ t.head?, isBlank c = false := by
  cases t with
  | nil => exact iff_of_true rfl fun c hc => nomatch hc
  | cons d t =>
    rw [stripLeft, List.dropWhile_eq_self_iff]
    simp

theorem stripLeft_stripLeft (t : Text) : stripLeft (stripLeft t) = stripLeft t :=
  List.dropWhile_eq_self_iff.mpr (List.dropWhile_get_zero_not isBlank t)

theorem stripRight_eq_reverse (t : Text) : stripRight t = (stripLeft t.reverse).reverse := rfl

theorem stripRight_eq_self_iff : stripRight t = t ↔ ∀ c ∈ t.getLast?, isBlank c = false := by
  rw [stripRight_eq_reverse, List.reverse_eq_iff, stripLeft_eq_self_iff, List.head?_reverse]

theorem stripRight_stripRight (t : Text) : stripRight (stripRight t) = stripRight t := by
  rw [stripRight_eq_reverse, stripRight_eq_reverse, List.reverse_reverse, stripLeft_stripLeft]

theorem stripRight_isPrefix (t : Text) : stripRight t <+: t := by
  rw [← List.reverse_suffix, stripRight_eq_reverse, List.reverse_reverse]
  exact List.dropWhile_suffix isBlank

theorem mem_of_mem_strip (h : c ∈ strip t) : c ∈ t :=
  (List.dropWhile_suffix isBlank).subset ((stripRight_isPrefix _).subset h)

theorem stripRight_append_of_blank (hs : ∀ c ∈ s, isBlank c = true) (t : Text) :
    stripRight (t ++ s) = stripRight t := by
  rw [stripRight_eq_reverse, List.reverse_append, stripLeft,
    List.dropWhile_append_of_pos fun c hc => hs c (List.mem_reverse.mp hc)]
  rfl

/-! ## Both ends -/

theorem strip_eq_self_iff :
    strip t = t ↔ (∀ c ∈ t.head?, isBlank c = false) ∧ ∀ c ∈ t.getLast?, isBlank c = false := by
  rw [← stripLeft_eq_self_iff, ← stripRight_eq_self_iff]
  refine ⟨fun h => ?_, fun ⟨hl, hr⟩ => by rw [strip, hl, hr]⟩
  have hle := (stripRight_isPrefix (stripLeft t)).length_le
  rw [show stripRight (stripLeft t) = t from h] at hle
  have hl : stripLeft t = t := (List.dropWhile_suffix isBlank).eq_of_length_le hle
  exact ⟨hl, by rw [strip, hl] at h; exact h⟩

theorem strip_append_of_blank (hs : ∀ c ∈ s, isBlank c = true) (t : Text) :
    strip (s ++ t) = strip t := by
  rw [strip, stripLeft, List.dropWhile_append_of_pos hs]
  rfl

theorem strip_cons_of_blank (h : isBlank c = true) (t : Text) : strip (c :: t) = strip t := by
  rw [strip, stripLeft_cons_of_blank h]
  rfl

theorem strip_append_blanks (hs : ∀ c ∈ s, isBlank c = true) (t : Text) :
    strip (t ++ s) = strip t := by
  rw [strip, stripLeft, List.dropWhile_append]
  split
  · rename_i ht
    have hs' : s.dropWhile isBlank = [] := List.dropWhile_eq_nil_iff.mpr hs
    rw [hs', strip, stripLeft, List.isEmpty_iff.mp ht]
  · exact stripRight_append_of_blank hs _

theorem strip_stripLeft (t : Text) : strip (stripLeft t) = strip t := by
  rw [strip, stripLeft_stripLeft]
  rfl

theorem strip_strip (t : Text) : strip (strip t) = strip t := by
  have hl : stripLeft (strip t) = strip t := by
    rw [stripLeft_eq_self_iff]
    intro c hc
    refine stripLeft_eq_self_iff.mp (stripLeft_stripLeft t) c ?_
    obtain ⟨r, hr⟩ := stripRight_isPrefix (stripLeft t)
    obtain ⟨u, hu⟩ := List.head?_eq_some_iff.mp hc
    rw [← hr, show stripRight (stripLeft t) = c :: u from hu]
    rfl
  rw [strip, hl, strip, stripRight_stripRight]

/-- Stripping takes blanks away at the two ends. -/
theorem exists_eq_append_strip (t : Text) :
    ∃ s u, t = s ++ strip t ++ u ∧ (∀ c ∈ s, isBlank c = true) ∧ ∀ c ∈ u, isBlank c = true := by
  refine ⟨t.takeWhile isBlank, ((stripLeft t).reverse.takeWhile isBlank).reverse, ?_, ?_, ?_⟩
  · rw [List.append_assoc, strip, stripRight, ← List.reverse_append,
      List.takeWhile_append_dropWhile, List.reverse_reverse]
    exact List.takeWhile_append_dropWhile.symm
  · exact List.all_eq_true.mp List.all_takeWhile
  · exact fun c hc => List.all_eq_true.mp List.all_takeWhile c (List.mem_reverse.mp hc)

theorem strip_ne_nil_iff : strip t ≠ [] ↔ ∃ c ∈ t, isBlank c = false := by
  obtain ⟨s, u, ht, hs, hu⟩ := exists_eq_append_strip t
  constructor
  · intro hne
    obtain ⟨c, r, hr⟩ := List.exists_cons_of_ne_nil hne
    have hc : isBlank c = false :=
      (strip_eq_self_iff.mp (strip_strip t)).1 c (by rw [hr]; rfl)
    refine ⟨c, ?_, hc⟩
    rw [ht, hr]
    simp
  · rintro ⟨c, hc, hblank⟩ hnil
    rw [ht, hnil, List.append_nil] at hc
    rcases List.mem_append.mp hc with hc | hc
    · rw [hs c hc] at hblank
      cases hblank
    · rw [hu c hc] at hblank
      cases hblank

end ThemedCss.Text
