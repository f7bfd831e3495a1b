import Mathlib.Data.List.Basic
import Mathlib.Tactic.SplitIfs
import ThemedCss.Proofs.Selector.Split

/-!
# The parts of any text

Any text may be given for a list of selectors: it may leave brackets open behind its last comma, start
or end with blanks, and hold empty parts.

* `IsHead`, `exists_head`: a text up to its last comma outside brackets, and what follows;
* **`isOpenPart_of_mem_split`**: the parts of a text are selectors, and all but the last one close
  their brackets;
* `eq_nil_of_suffix`, `IsHead.not_suffix`: when a text ends with one of its parts.
-/

namespace ThemedCss.Selector

variable {s t p a : Text}

/-! ## Depths -/

theorem depthAfter_mono {d e : Nat} (h : d ≤ e) (c : Char) : depthAfter d c ≤ depthAfter e c := by
  unfold depthAfter
  split_ifs <;> omega

theorem pieces_eq_singleton_of_le {d e : Nat} (h : d ≤ e) (hs : pieces d s = [s]) :
    pieces e s = [s] := by
  induction s generalizing d e with
  | nil => rfl
  | cons c s ih =>
    obtain ⟨hc, hs⟩ := pieces_cons_eq_singleton_iff.mp hs
    refine pieces_cons_eq_singleton_iff.mpr ⟨fun hcomma => hc ⟨hcomma.1, ?_⟩, ?_⟩
    · omega
    · exact ih (depthAfter_mono h c) hs

/-! ## The last comma -/

/-- Whether a text is empty or ends with a comma outside brackets. -/
def IsHead (a : Text) : Prop := a = [] ∨ ∃ b, a = b ++ [','] ∧ endDepth 0 b = 0

namespace IsHead

theorem closed (h : IsHead a) : endDepth 0 a = 0 := by
  obtain rfl | ⟨b, rfl, hb⟩ := h
  · rfl
  · rw [endDepth_append, hb]
    rfl

theorem split_append (h : IsHead a) (t : Text) : split (a ++ t) = split a ++ split t := by
  obtain rfl | ⟨b, rfl, hb⟩ := h
  · rfl
  · have hhead : split (b ++ [',']) = split b := by
      rw [split_append_comma hb]
      exact List.append_nil _
    rw [List.append_assoc, hhead]
    exact split_append_comma hb t

end IsHead

/-- Every text is cut at its last comma outside brackets. -/
theorem exists_head (s : Text) : ∃ a t, s = a ++ t ∧ IsHead a ∧ pieces 0 t = [t] := by
  -- the first piece may start inside brackets
  have hcut : ∀ depth, pieces depth s = [s] ∨
      ∃ b t, s = b ++ ',' :: t ∧ endDepth depth b = 0 ∧ pieces 0 t = [t] := by
    induction s with
    | nil => exact fun depth => .inl rfl
    | cons c s ih =>
      intro depth
      by_cases hc : c = ',' ∧ depth = 0
      · obtain ⟨rfl, rfl⟩ := hc
        obtain hs | ⟨b, t, rfl, hb, ht⟩ := ih 0
        · exact .inr ⟨[], s, rfl, rfl, hs⟩
        · exact .inr ⟨',' :: b, t, rfl, hb, ht⟩
      · obtain hs | ⟨b, t, rfl, hb, ht⟩ := ih (depthAfter depth c)
        · exact .inl (pieces_cons_eq_singleton_iff.mpr ⟨hc, hs⟩)
        · exact .inr ⟨c :: b, t, rfl, hb, ht⟩
  obtain hs | ⟨b, t, rfl, hb, ht⟩ := hcut 0
  · exact ⟨[], s, rfl, .inl rfl, hs⟩
  · exact ⟨b ++ [','], t, by simp, .inr ⟨b, rfl, hb⟩, ht⟩

/-! ## Parts -/

/-- One selector whose brackets may stay open: not empty, without blanks at the ends and without a
comma outside brackets. -/
structure IsOpenPart (s : Text) : Prop where
  ne_nil : s ≠ []
  strip_eq : Text.strip s = s
  pieces_eq : pieces 0 s = [s]

theorem IsPart.isOpenPart (h : IsPart s) : IsOpenPart s := ⟨h.ne_nil, h.strip_eq, h.pieces_eq⟩

theorem split_of_pieces (h : pieces 0 s = [s]) :
    split s = if Text.strip s = [] then [] else [Text.strip s] := by
  unfold split
  split_ifs with hs <;> simp [h, hs]

theorem IsOpenPart.split_eq (h : IsOpenPart s) : split s = [s] := by
  rw [split_of_pieces h.pieces_eq, h.strip_eq, if_neg h.ne_nil]

theorem flatMap_split {ps : List Text} (h : ∀ p ∈ ps, IsOpenPart p) : ps.flatMap split = ps := by
  calc ps.flatMap split = ps.flatMap fun p => [p] :=
        List.flatMap_congr fun p hp => (h p hp).split_eq
    _ = ps := List.flatMap_singleton' ps

theorem isOpenPart_strip (hp : pieces 0 s = [s]) (hne : Text.strip s ≠ []) :
    IsOpenPart (Text.strip s) :=
  ⟨hne, Text.strip_strip s, pieces_strip hp⟩

/-- The parts of a text are selectors, and all but the last one close their brackets. -/
theorem isOpenPart_of_mem_split (s : Text) :
    (∀ p ∈ split s, IsOpenPart p) ∧ ∀ p ∈ (split s).dropLast, IsPart p := by
  obtain ⟨a, t, rfl, ha, ht⟩ := exists_head s
  have hhead : ∀ p ∈ split a, IsPart p := fun p hp => isPart_of_mem_split ha.closed hp
  rw [ha.split_append, split_of_pieces ht]
  by_cases hblank : Text.strip t = []
  · rw [if_pos hblank, List.append_nil]
    exact ⟨fun p hp => (hhead p hp).isOpenPart,
      fun p hp => hhead p (List.dropLast_subset _ hp)⟩
  · rw [if_neg hblank, List.dropLast_concat]
    refine ⟨fun p hp => ?_, hhead⟩
    rcases List.mem_append.mp hp with hp | hp
    · exact (hhead p hp).isOpenPart
    · rw [List.mem_singleton.mp hp]
      exact isOpenPart_strip ht hblank

theorem IsSound.isPart (h : IsSound s) (hs : isList s = false) : IsPart s :=
  h.isPart_of_mem_split (h.split_eq_singleton hs ▸ List.mem_singleton_self s)

/-! ## Ends -/

theorem eq_nil_of_suffix {u y : Text} (hne : p ≠ []) (hp : Text.strip p = p)
    (hy : ∀ c ∈ y, Text.isBlank c = true) (h : p <:+ u ++ y) : y = [] := by
  by_contra hynil
  obtain ⟨v, hv⟩ := h
  obtain ⟨c, hc⟩ := Option.ne_none_iff_exists'.mp (mt List.getLast?_eq_none_iff.mp hynil)
  have hends : p.getLast? = some c := by
    rw [← List.getLast?_append_of_ne_nil v hne, hv, List.getLast?_append_of_ne_nil u hynil, hc]
  have hblank := (Text.strip_eq_self_iff.mp hp).2 c hends
  rw [hy c (List.mem_of_getLast? hc)] at hblank
  cases hblank

theorem IsPart.getLast?_ne_comma (h : IsPart p) : p.getLast? ≠ some ',' := by
  intro hlast
  obtain ⟨b, rfl⟩ := List.getLast?_eq_some_iff.mp hlast
  obtain ⟨-, hcomma⟩ := pieces_append_eq_singleton_iff.mp h.pieces_eq
  have hclosed := h.closed
  rw [endDepth_append] at hclosed
  rw [show endDepth 0 b = 0 from hclosed] at hcomma
  exact absurd hcomma (by decide)

/-- No part of a text stands at its end when only blanks follow the last comma. -/
theorem IsHead.not_suffix (ha : IsHead a) (hne : a ++ t ≠ []) (ht : Text.strip t = [])
    (hp : p ∈ split a) : ¬ p <:+ a ++ t := by
  intro hsuffix
  have hpart := isPart_of_mem_split ha.closed hp
  have hblank : ∀ c ∈ t, Text.isBlank c = true := by
    intro c hc
    by_contra hc'
    exact Text.strip_ne_nil_iff.mpr ⟨c, hc, Bool.eq_false_iff.mpr hc'⟩ ht
  obtain rfl := eq_nil_of_suffix hpart.ne_nil hpart.strip_eq hblank hsuffix
  obtain rfl | ⟨b, rfl, -⟩ := ha
  · exact hne rfl
  · obtain ⟨v, hv⟩ := hsuffix
    refine hpart.getLast?_ne_comma ?_
    rw [← List.getLast?_append_of_ne_nil v hpart.ne_nil, hv, List.append_nil, List.getLast?_concat]

end ThemedCss.Selector
