import ThemedCss.Proofs.Text.Lines
import ThemedCss.Proofs.Variable.Expansion

/-!
# Shortening line by line

An opening that is never closed stops the scanner, and one that is closed later takes in all text up
to there. Where a line closes what it opens, and ends in a code point with which no opening goes on,
the scanner stands behind it as it stands in front of a text.

* `IsClosed`: every opening of a reference is closed;
* `IsLineEnd`: the code points with which the lines of a style sheet end;
* `Traverses.append_of_isClosed`: a line, and the text behind it;
* `allReferences_strip`: blanks around a text;
* `mem_of_mem_shorten`, `mem_of_mem_allReferences`: what comes out was there before;
* `IsClosed.shorten`: a shortened line closes what it opens;
* **`shorten_unlines`**, `allReferences_unlines`: a text of such lines.
-/

namespace ThemedCss

open Variable

namespace Variable

/-- A text that closes every reference that it opens: no reference with a fallback is opened in it, or
it is closed, and so are those behind the first one. -/
inductive IsClosed : Text → Prop
  | clear {t} : IsClear t [] → IsClosed t
  | behind {t f} : occurrence? t = some f → IsClosed f.rest → IsClosed t

theorem isClear_iff {t : Text} : IsClear t [] ↔ firstOpening? t = none := by
  constructor
  · intro h
    have happend := firstOpening?_append h
    rwa [List.append_nil] at happend
  · intro h
    induction t with
    | nil => exact fun b hb hsuffix => absurd (List.suffix_nil.mp hsuffix) hb
    | cons c t ih =>
      intro b hb hsuffix
      rw [firstOpening?] at h
      cases hopening : opening? (c :: t) with
      | some p =>
        rw [hopening] at h
        cases h
      | none =>
        rw [hopening] at h
        rcases List.suffix_cons_iff.mp hsuffix with rfl | hsuffix
        · rwa [List.append_nil]
        · exact ih (Option.map_eq_none_iff.mp h) b hb hsuffix

theorem isClosed_of_none {t : Text} (h : occurrence? t = none) :
    IsClosed t ↔ (firstOpening? t).isNone = true := by
  rw [Option.isNone_iff_eq_none, ← isClear_iff]
  refine ⟨fun hclosed => ?_, .clear⟩
  cases hclosed with
  | clear hclear => exact hclear
  | behind hf _ =>
    rw [h] at hf
    cases hf

theorem isClosed_of_some {t : Text} {f : Occurrence} (h : occurrence? t = some f) :
    IsClosed t ↔ IsClosed f.rest := by
  refine ⟨fun hclosed => ?_, .behind h⟩
  cases hclosed with
  | clear hclear =>
    rw [occurrence?, isClear_iff.mp hclear] at h
    cases h
  | behind hf hrest =>
    obtain rfl := Option.some.inj (hf.symm.trans h)
    exact hrest

/-- Whether a text closes what it opens. -/
def decideIsClosed (t : Text) : Decidable (IsClosed t) :=
  match h : occurrence? t with
  | none => decidable_of_iff _ (isClosed_of_none h).symm
  | some f =>
    have := occurrence?_rest_lt h
    @decidable_of_iff _ _ (isClosed_of_some h).symm (decideIsClosed f.rest)
termination_by t.length

instance : DecidablePred IsClosed := decideIsClosed

/-- A semicolon or a brace. -/
def IsLineEnd (c : Char) : Prop := c = ';' ∨ c = '\x7b' ∨ c = '\x7d'

variable {root : Bindings} {s t name fallback : Text} {c : Char} {o : Opening} {f : Occurrence}
variable {α : Type} {F between : Text → List α} {each : Opening → Text → List α}

/-! ## The end of a line -/

theorem isBlank_of_isLineEnd (hc : IsLineEnd c) : Text.isBlank c = false := by
  rcases hc with rfl | rfl | rfl <;> decide

theorem Opening.IsWritten.not_mem_of_isLineEnd (h : o.IsWritten) (hc : IsLineEnd c) :
    c ∉ o.text := by
  obtain ⟨-, hname, gap, gap', gap'', hgap, hgap', hgap'', htext⟩ := h
  have hout : isNameChar c = false ∧ c ∉ ("var(--," : Text) := by
    rcases hc with rfl | rfl | rfl <;> decide
  have hblank : ∀ g : Text, (∀ d ∈ g, Text.isBlank d = true) → c ∉ g := fun g hg hmem => by
    have hb := isBlank_of_isLineEnd hc
    rw [hg c hmem] at hb
    cases hb
  have hnamed : c ∉ o.name := fun hmem => by
    rw [hname c hmem] at hout
    cases hout.1
  have hsigns : c ∉ ("var(" : Text) ∧ c ∉ ("--" : Text) ∧ c ∉ ("," : Text) := by
    rcases hc with rfl | rfl | rfl <;> decide
  rw [htext]
  simp only [List.mem_append, not_or]
  exact ⟨hsigns.1, hblank gap hgap, hsigns.2.1, hnamed, hblank gap' hgap', hsigns.2.2,
    hblank gap'' hgap''⟩

/-- No opening that starts in a line goes on behind its end. -/
theorem IsClear.append_of_isLineEnd (h : IsClear (s ++ [c]) []) (hc : IsLineEnd c) (t : Text) :
    IsClear (s ++ [c]) t := by
  refine isClear_of_forall fun b o rest hb hsuffix hwritten htext hhead => ?_
  have hend := hwritten.not_mem_of_isLineEnd hc
  have hmem : c ∈ b := by
    obtain ⟨b', rfl, -⟩ := (List.suffix_concat_iff.mp hsuffix).resolve_left hb
    exact List.mem_append_right b' List.mem_cons_self
  -- the opening ends inside the line, and is found there without what stands behind
  rcases List.append_eq_append_iff.mp htext with ⟨more, hmore, -⟩ | ⟨more, rfl, rfl⟩
  · exact hend (hmore ▸ List.mem_append_left more hmem)
  · have hne : more ≠ [] := by
      rintro rfl
      rw [List.append_nil] at hmem
      exact hend hmem
    have hopening : opening? (o.text ++ more ++ []) = some (o, more) := by
      refine opening?_eq_some_iff.mpr ⟨hwritten, List.append_nil _, fun d hd => hhead d ?_⟩
      rwa [List.head?_append_of_ne_nil _ hne]
    rw [h _ hb hsuffix] at hopening
    cases hopening

theorem IsClear.of_concat (h : IsClear (s ++ [c]) []) (hc : IsLineEnd c) : IsClear s [] := by
  refine isClear_of_forall fun b o rest hb hsuffix hwritten htext hhead => ?_
  rw [List.append_nil] at htext
  have hopening : opening? (b ++ [c] ++ []) = some (o, rest ++ [c]) := by
    refine opening?_eq_some_iff.mpr ⟨hwritten, by simp [htext], fun d hd => ?_⟩
    cases rest with
    | nil =>
      obtain rfl := Option.some.inj hd
      exact isBlank_of_isLineEnd hc
    | cons e rest => exact hhead d hd
  obtain ⟨a, rfl⟩ := hsuffix
  rw [h _ (by simp) ⟨a, by simp⟩] at hopening
  cases hopening

theorem occurrence?_of_isClear (h : IsClear t []) : occurrence? t = none := by
  rw [occurrence?, isClear_iff.mp h]

/-! ## A line, and the text behind it -/

theorem length_front_le (h : occurrence? (s ++ [c]) = some f) (hc : IsLineEnd c) :
    f.front.length ≤ s.length := by
  have htext := occurrence?_eq_append h
  have hrest : f.rest ≠ [] := by
    intro hnil
    rw [hnil, List.append_nil, Occurrence.front] at htext
    obtain rfl : c = ')' := List.singleton_inj.mp (List.append_inj_right' htext rfl)
    rcases hc with hc | hc | hc <;> cases hc
  have hpos := List.length_pos_iff.mpr hrest
  have hlength := congrArg List.length htext
  simp only [List.length_append, List.length_singleton] at hlength
  omega

theorem occurrence?_line (h : occurrence? (s ++ [c]) = some f) (hc : IsLineEnd c) (t : Text) :
    ∃ rest, f.rest = rest ++ [c] ∧ occurrence? s = some { f with rest } ∧
      occurrence? (s ++ c :: t) = some { f with rest := rest ++ c :: t } := by
  obtain ⟨rest, -, hrest, hs⟩ := exists_rest_of_length_le h (length_front_le h hc)
  exact ⟨rest, hrest, hs, occurrence?_behind hs (c :: t)⟩

namespace Traverses

/-- **A line that closes what it opens is gone through by itself.** -/
theorem append_of_isClosed (h : Traverses F between each) (hclosed : IsClosed (s ++ [c]))
    (hc : IsLineEnd c) (t : Text) : F (s ++ c :: t) = F s ++ between [c] ++ F t := by
  generalize hline : s ++ [c] = line at hclosed
  induction hclosed generalizing s with
  | clear hclear =>
    subst hline
    rw [List.append_cons, h.append (hclear.append_of_isLineEnd hc t), h.between_append,
      h.of_none (occurrence?_of_isClear (hclear.of_concat hc))]
  | behind hf _ ih =>
    subst hline
    obtain ⟨rest, hrest, hs, hst⟩ := occurrence?_line hf hc t
    rw [h.of_some hs, h.of_some hst, ih hrest.symm]
    simp only [List.append_assoc]

theorem concat_of_isClosed (h : Traverses F between each) (hclosed : IsClosed (s ++ [c]))
    (hc : IsLineEnd c) : F (s ++ [c]) = F s ++ between [c] := by
  rw [h.append_of_isClosed hclosed hc, h.nil, List.append_nil]

end Traverses

theorem allReferences_nil : allReferences [] = [] := traverses_allReferences.nil

theorem allReferences_strip (t : Text) : allReferences (Text.strip t) = allReferences t := by
  obtain ⟨s, u, ht, hs, hu⟩ := Text.exists_eq_append_strip t
  conv_rhs => rw [ht, List.append_assoc, traverses_allReferences.append (isClear_of_blank hs _),
    traverses_allReferences.append_blanks hu]
  rw [List.nil_append, List.append_nil]

/-! ## What comes out was there before -/

theorem mem_of_mem_shorten (h : c ∈ shorten root t) : c ∈ t := by
  induction t using occurrence_induction with
  | none t hn => rwa [shorten_of_none root hn] at h
  | some t f hf ihFallback ihRest =>
    obtain ⟨rfl, hwritten, -⟩ := occurrence?_eq_some_iff.mp hf
    have hbare : ∀ d ∈ bareReference f.opening.name, d ∈ f.opening.text ++ [')'] := by
      obtain ⟨-, -, gap, gap', gap'', -, -, -, htext⟩ := hwritten
      intro d hd
      rw [htext]
      simp only [bareReference_eq, ofReference, List.mem_append] at hd ⊢
      tauto
    rw [shorten_of_some root hf] at h
    simp only [Occurrence.text, List.mem_append, List.mem_cons]
    simp only [List.mem_append] at h
    rcases h with (h | h) | h
    · exact .inl (.inl (.inl h))
    · split at h
      · rcases List.mem_append.mp (hbare c h) with h | h
        · exact .inl (.inl (.inr h))
        · exact .inr (.inl (List.mem_singleton.mp h))
      · simp only [List.mem_append] at h
        rcases h with (h | h) | h
        · exact .inl (.inl (.inr h))
        · exact .inl (.inr (ihFallback h))
        · exact .inr (.inl (List.mem_singleton.mp h))
    · exact .inr (.inr (ihRest h))

theorem mem_of_mem_allReferences (h : (name, fallback) ∈ allReferences t) :
    (∀ c ∈ name, isNameChar c = true) ∧ ∀ c ∈ fallback, c ∈ t := by
  induction hlen : t.length using Nat.strong_induction_on generalizing t with
  | _ n ih =>
    subst hlen
    cases hf : occurrence? t with
    | none =>
      rw [allReferences_of_none hf] at h
      cases h
    | some f =>
      have hfallback : ∀ c ∈ Text.strip f.fallback, c ∈ t := by
        intro c hc
        rw [← occurrence?_text hf, Occurrence.text]
        exact List.mem_append_left _ (List.mem_append_right _ (Text.mem_of_mem_strip hc))
      have hrest : ∀ c ∈ f.rest, c ∈ t := by
        intro c hc
        rw [← occurrence?_text hf, Occurrence.text]
        exact List.mem_append_right _ (List.mem_cons_of_mem _ hc)
      rw [allReferences_of_some hf] at h
      rcases List.mem_append.mp h with h | h
      · rcases List.mem_cons.mp h with h | h
        · obtain ⟨rfl, rfl⟩ := Prod.mk.inj h
          exact ⟨(occurrence?_eq_some_iff.mp hf).2.1.2.1, hfallback⟩
        · have hlt := Nat.lt_of_le_of_lt (strip_length_le f.fallback) (occurrence?_fallback_lt hf)
          obtain ⟨hname, hmem⟩ := ih _ hlt h rfl
          exact ⟨hname, fun c hc => hfallback c (hmem c hc)⟩
      · obtain ⟨hname, hmem⟩ := ih _ (occurrence?_rest_lt hf) h rfl
        exact ⟨hname, fun c hc => hrest c (hmem c hc)⟩

/-! ## Lines stay closed -/

theorem IsClear.append (hs : IsClear s t) (ht : IsClear t []) : IsClear (s ++ t) [] := by
  intro b hb hsuffix
  rcases List.suffix_or_suffix_of_suffix hsuffix (List.suffix_append s t) with h | ⟨b', rfl⟩
  · exact ht b hb h
  · have hb' : b' <:+ s := List.suffix_append_self_iff.mp hsuffix
    cases b' with
    | nil => exact ht t hb (List.suffix_refl t)
    | cons d b' =>
      rw [List.append_nil]
      exact hs (d :: b') (List.cons_ne_nil d b') hb'

theorem IsClosed.append (h : IsClosed t) (hs : IsClear s t) : IsClosed (s ++ t) := by
  have happend := occurrence?_append hs
  cases h with
  | clear ht => exact .clear (hs.append ht)
  | behind hf hrest =>
    rw [hf] at happend
    exact .behind happend hrest

theorem IsClosed.of_blanks (h : IsClosed (s ++ t)) (hs : ∀ c ∈ s, Text.isBlank c = true) :
    IsClosed t := by
  have happend := occurrence?_append (isClear_of_blank hs t)
  cases h with
  | clear hst => exact .clear fun b hb hsuffix => hst b hb (hsuffix.trans (List.suffix_append s t))
  | behind hf hrest =>
    rw [hf] at happend
    obtain ⟨g, hg, rfl⟩ := Option.map_eq_some_iff.mp happend.symm
    exact .behind hg hrest

/-- **A shortened text closes what it opens.** -/
theorem IsClosed.shorten (h : IsClosed t) (root : Bindings) : IsClosed (shorten root t) := by
  induction h with
  | clear h =>
    rw [shorten_of_none root (occurrence?_of_isClear h)]
    exact .clear h
  | @behind t f hf _ ih =>
    by_cases hholds : root.Holds f
    · obtain ⟨-, hwritten, -, -, hclear⟩ := occurrence?_eq_some_iff.mp hf
      obtain ⟨behind, hvar, -⟩ := hwritten.exists_text_eq
      have hbare := ih.append (isClear_bareReference hwritten _)
      rw [shorten_of_some root hf, if_pos hholds, List.append_assoc]
      refine hbare.append ?_
      rw [hvar, List.append_assoc] at hclear
      rw [bareReference_eq, List.append_assoc]
      exact hclear.of_var _
    · exact .behind (occurrence?_shorten hf hholds) ih

end Variable

/-! ## Texts of lines -/

/-- A line that is read by itself: it is empty, or closes what it opens and has an end. -/
def IsLine (l : Text) : Prop := IsClosed l ∧ (l = [] ∨ ∃ s c, l = s ++ [c] ∧ IsLineEnd c)

variable {ls : List Text} {root : Bindings} {l : Text}
variable {α : Type} {F between : Text → List α} {each : Opening → Text → List α}

theorem shorten_nil (root : Bindings) : shorten root [] = [] := (traverses_shorten root).nil

theorem isClear_feed (t : Text) : IsClear ['\n'] t := isClear_of_blank (List.forall_mem_singleton.mpr rfl) t

/-- A line is gone through by itself. -/
theorem Variable.Traverses.append_of_isLine (h : Traverses F between each) (hl : IsLine l)
    (t : Text) : F (l ++ t) = F l ++ F t := by
  obtain ⟨hclosed, rfl | ⟨s, c, rfl, hend⟩⟩ := hl
  · rw [h.nil, List.nil_append, List.nil_append]
  · rw [List.append_assoc, List.singleton_append, h.append_of_isClosed hclosed hend,
      h.concat_of_isClosed hclosed hend]

theorem Variable.Traverses.unlines_cons (h : Traverses F between each) (hl : IsLine l)
    (hne : ls ≠ []) :
    F (Text.unlines (l :: ls)) = F l ++ (between ['\n'] ++ F (Text.unlines ls)) := by
  rw [Text.unlines_cons hne, h.append_of_isLine hl, ← List.singleton_append,
    h.append (isClear_feed _)]

/-- **A text of lines is shortened line by line.** -/
theorem shorten_unlines (h : ∀ l ∈ ls, IsLine l) (root : Bindings) :
    shorten root (Text.unlines ls) = Text.unlines (ls.map (shorten root)) := by
  induction ls with
  | nil => exact shorten_nil root
  | cons l ls ih =>
    rw [List.forall_mem_cons] at h
    cases ls with
    | nil => simp [Text.unlines]
    | cons m ls =>
      have hne : (m :: ls).map (shorten root) ≠ [] := List.cons_ne_nil _ _
      rw [(traverses_shorten root).unlines_cons h.1 (List.cons_ne_nil m ls), ih h.2,
        List.map_cons (l := m :: ls), Text.unlines_cons hne]
      rfl

theorem allReferences_unlines (h : ∀ l ∈ ls, IsLine l) :
    allReferences (Text.unlines ls) = ls.flatMap allReferences := by
  induction ls with
  | nil => exact allReferences_nil
  | cons l ls ih =>
    rw [List.forall_mem_cons] at h
    cases ls with
    | nil => simp [Text.unlines]
    | cons m ls =>
      rw [traverses_allReferences.unlines_cons h.1 (List.cons_ne_nil m ls), ih h.2]
      rfl

end ThemedCss
