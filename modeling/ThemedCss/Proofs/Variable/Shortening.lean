import ThemedCss.Proofs.Variable.Scanner
import ThemedCss.Variable.Hoist

/-!
# Shortening a text

Shortening cuts a text into stretches that stay and references that lose their fallbacks. The
references that are left stand where they stood, so that shortening a shortened text looks at the
same ones again, with shorter fallbacks.

* `Edit`, `edits`: the stretches, before and after;
* `flatMap_before_edits`, **`flatMap_after_edits`**: they make up the text and the shortened one;
* `get?_of_shorten_mem_edits`: a fallback that is taken away is held by the root;
* `depthBehind?_shorten`, `occurrence?_shorten`: parentheses stay balanced, and references in place;
* `IsSettled`, **`shorten_shorten_eq_self_iff`**: when a second shortening finds nothing to do.
-/

namespace ThemedCss

open Variable

namespace Variable

/-- A stretch of a text that is shortened, with what it is before and after. -/
inductive Edit
  /-- Text that stays. -/
  | copy (text : Text)
  /-- The opening of a reference that keeps its fallback, which follows in stretches of its own. -/
  | keep (o : Opening) (fallback : Text)
  /-- A reference that loses its fallback. -/
  | shorten (o : Opening) (fallback : Text)
  deriving DecidableEq

namespace Edit

def before : Edit → Text
  | copy text => text
  | keep o _ => o.text
  | shorten o fallback => o.text ++ fallback ++ ")"

def after : Edit → Text
  | copy text => text
  | keep o _ => o.text
  | shorten o _ => bareReference o.name

end Edit

/-- The stretches of a text that is shortened for a root. -/
def edits (root : Bindings) (t : Text) : List Edit :=
  match h : occurrence? t with
  | none => [.copy t]
  | some f =>
    have := occurrence?_rest_lt h
    have := occurrence?_fallback_lt h
    .copy f.before ::
      (if root.get? (ofReference f.opening.name) = some (Text.strip f.fallback) then
        [.shorten f.opening f.fallback]
      else .keep f.opening f.fallback :: edits root f.fallback ++ [.copy ")"]) ++
      edits root f.rest
termination_by t.length

end Variable

variable {root : Bindings} {t before : Text} {o : Opening} {d : Text} {f : Occurrence}

/-- Whether the root holds the fallback of a reference. -/
def Bindings.Holds (root : Bindings) (f : Occurrence) : Prop :=
  root.get? (ofReference f.opening.name) = some (Text.strip f.fallback)

instance : DecidablePred root.Holds := fun f => by unfold Bindings.Holds; infer_instance

/-! ## One reference at a time -/

theorem shorten_of_none (root : Bindings) (h : occurrence? t = none) : shorten root t = t := by
  rw [shorten]
  split
  · rfl
  · simp_all

theorem shorten_of_some (root : Bindings) (h : occurrence? t = some f) :
    shorten root t = f.before ++
      (if root.Holds f then bareReference f.opening.name
      else f.opening.text ++ shorten root f.fallback ++ ")") ++ shorten root f.rest := by
  rw [shorten]
  split
  · simp_all
  · rename_i g hg
    obtain rfl : f = g := Option.some.inj (h.symm.trans hg)
    rfl

theorem traverses_shorten (root : Bindings) : Traverses (shorten root) id fun o d =>
    if root.get? (ofReference o.name) = some (Text.strip d) then bareReference o.name
    else o.text ++ shorten root d ++ ")" :=
  ⟨shorten_of_none root, shorten_of_some root, fun _ _ => rfl⟩

theorem edits_of_none (root : Bindings) (h : occurrence? t = none) : edits root t = [.copy t] := by
  rw [edits]
  split
  · rfl
  · simp_all

theorem edits_of_some (root : Bindings) (h : occurrence? t = some f) :
    edits root t = .copy f.before ::
      (if root.Holds f then [.shorten f.opening f.fallback]
      else .keep f.opening f.fallback :: edits root f.fallback ++ [.copy ")"]) ++
      edits root f.rest := by
  rw [edits]
  split
  · simp_all
  · rename_i g hg
    obtain rfl : f = g := Option.some.inj (h.symm.trans hg)
    rfl

/-! ## The stretches of a text -/

theorem flatMap_before_edits (root : Bindings) (t : Text) :
    (edits root t).flatMap Edit.before = t := by
  induction t using occurrence_induction with
  | none t h => simp [edits_of_none root h, Edit.before]
  | some t f h ihFallback ihRest =>
    have ht := occurrence?_text h
    rw [edits_of_some root h]
    by_cases hf : root.Holds f
    · simpa [hf, ihRest, Edit.before, Occurrence.text] using ht
    · simpa [hf, ihFallback, ihRest, Edit.before, Occurrence.text] using ht

/-- **What the stretches become makes up the shortened text.** -/
theorem flatMap_after_edits (root : Bindings) (t : Text) :
    (edits root t).flatMap Edit.after = shorten root t := by
  induction t using occurrence_induction with
  | none t h => simp [edits_of_none root h, shorten_of_none root h, Edit.after]
  | some t f h ihFallback ihRest =>
    rw [edits_of_some root h, shorten_of_some root h]
    by_cases hf : root.Holds f
    · simp [hf, ihRest, Edit.after]
    · simp [hf, ihFallback, ihRest, Edit.after]

theorem get?_of_shorten_mem_edits (h : Edit.shorten o d ∈ edits root t) :
    root.get? (ofReference o.name) = some (Text.strip d) := by
  induction t using occurrence_induction with
  | none t hn =>
    rw [edits_of_none root hn] at h
    simp at h
  | some t f hf ihFallback ihRest =>
    rw [edits_of_some root hf] at h
    by_cases hholds : root.Holds f
    · simp only [hholds, if_true, List.mem_cons, List.mem_append, List.not_mem_nil, or_false,
        reduceCtorEq, false_or, Edit.shorten.injEq] at h
      rcases h with ⟨rfl, rfl⟩ | h
      · exact hholds
      · exact ihRest h
    · simp only [hholds, if_false, List.mem_cons, List.mem_append, List.not_mem_nil, or_false,
        reduceCtorEq, false_or] at h
      rcases h with h | h
      · exact ihFallback h
      · exact ihRest h

/-! ## Shortening keeps the shape of a text -/

theorem not_mem_ofReference (h : o.IsWritten) {c : Char} (hc : isNameChar c = false) :
    c ∉ ofReference o.name := by
  intro hmem
  have hname : ∀ d ∈ ofReference o.name, isNameChar d = true := by
    intro d hd
    rcases List.mem_append.mp hd with hd | hd
    · obtain rfl : d = '-' := by simpa using hd
      rfl
    · exact h.2.1 d hd
  rw [hname c hmem] at hc
  cases hc

theorem bareReference_eq (reference : Text) :
    bareReference reference = "var(" ++ (ofReference reference ++ ")") :=
  List.append_assoc _ _ _

theorem depthBehind?_bareReference (h : o.IsWritten) (depth : Nat) :
    depthBehind? depth (bareReference o.name) = some depth := by
  have hname : depthBehind? (depth + 1) (ofReference o.name) = some (depth + 1) :=
    depthBehind?_of_not_mem _ (not_mem_ofReference h rfl) (not_mem_ofReference h rfl)
  have hvar : depthBehind? depth ("var(" : Text) = some (depth + 1) := rfl
  have hclose : depthBehind? (depth + 1) (")" : Text) = some depth := rfl
  simp only [bareReference_eq, depthBehind?_append, hvar, hname, hclose, Option.bind_some]

/-- **Shortening keeps the depth of parentheses behind a text.** -/
theorem depthBehind?_shorten (root : Bindings) (t : Text) (depth : Nat) :
    depthBehind? depth (shorten root t) = depthBehind? depth t := by
  induction t using occurrence_induction generalizing depth with
  | none t h => rw [shorten_of_none root h]
  | some t f h ihFallback ihRest =>
    obtain ⟨rfl, hwritten, hclosed, -, -⟩ := occurrence?_eq_some_iff.mp h
    have hfallback : ∀ d, depthBehind? (d + 1) f.fallback = some (d + 1) := fun d => by
      simpa [Nat.add_comm] using depthBehind?_add hclosed (d + 1)
    have hclose : ∀ d, depthBehind? (d + 1) (")" : Text) = some d := fun _ => rfl
    have hmiddle : ∀ d, depthBehind? d (f.opening.text ++ f.fallback ++ ")") = some d := by
      intro d
      simp only [depthBehind?_append, hwritten.depthBehind?_text, hfallback, hclose,
        Option.bind_some]
    have hshort : ∀ d, depthBehind? d (if root.Holds f then bareReference f.opening.name
        else f.opening.text ++ shorten root f.fallback ++ ")") = some d := by
      intro d
      by_cases hf : root.Holds f
      · rw [if_pos hf, depthBehind?_bareReference hwritten]
      · simp only [hf, if_false, depthBehind?_append, hwritten.depthBehind?_text, ihFallback,
          hfallback, hclose, Option.bind_some]
    have htext : f.text = f.before ++ (f.opening.text ++ f.fallback ++ ")") ++ f.rest := by
      simp [Occurrence.text]
    rw [shorten_of_some root h, htext, depthBehind?_append_append hshort,
      depthBehind?_append_append hmiddle]
    exact Option.bind_congr fun d _ => ihRest d

theorem head?_shorten (root : Bindings) (t : Text) : (shorten root t).head? = t.head? := by
  cases h : occurrence? t with
  | none => rw [shorten_of_none root h]
  | some f =>
    obtain ⟨rfl, hwritten, -, -, -⟩ := occurrence?_eq_some_iff.mp h
    obtain ⟨behind, hvar, -⟩ := hwritten.exists_text_eq
    have hv : ("var(" : Text).head? = some 'v' := rfl
    rw [shorten_of_some root h, Occurrence.text, hvar]
    by_cases hf : root.Holds f
    · rw [if_pos hf, bareReference_eq]
      simp only [List.head?_append, hv, Option.some_or, Option.or_some]
    · rw [if_neg hf]
      simp only [List.head?_append, hv, Option.some_or, Option.or_some]

theorem isClear_bareReference (h : o.IsWritten) (t : Text) : IsClear (bareReference o.name) t := by
  refine isClear_concat_closing (fun hc => ?_) t
  rcases List.mem_append.mp hc with hc | hc
  · exact absurd hc (by decide)
  · exact not_mem_ofReference h rfl hc

theorem shorten_append (root : Bindings) (h : IsClear before t) :
    shorten root (before ++ t) = before ++ shorten root t :=
  (traverses_shorten root).append h

theorem shorten_shorten_of_holds (h : occurrence? t = some f) (hf : root.Holds f) :
    shorten root (shorten root t) =
      f.before ++ bareReference f.opening.name ++ shorten root (shorten root f.rest) := by
  obtain ⟨-, hwritten, -, -, hclear⟩ := occurrence?_eq_some_iff.mp h
  obtain ⟨behind, hvar, -⟩ := hwritten.exists_text_eq
  rw [hvar, List.append_assoc] at hclear
  rw [shorten_of_some root h, if_pos hf, List.append_assoc, List.append_assoc,
    ← shorten_append root (isClear_bareReference hwritten (shorten root f.rest)), bareReference_eq,
    List.append_assoc]
  exact shorten_append root (hclear.of_var _)

/-- **The first reference that keeps its fallback stays the first one.** -/
theorem occurrence?_shorten (h : occurrence? t = some f) (hf : ¬ root.Holds f) :
    occurrence? (shorten root t) =
      some ⟨f.before, f.opening, shorten root f.fallback, shorten root f.rest⟩ := by
  obtain ⟨-, hwritten, hclosed, hhead, hclear⟩ := occurrence?_eq_some_iff.mp h
  rw [shorten_of_some root h, if_neg hf]
  refine occurrence?_eq_some_iff.mpr ⟨?_, hwritten, ?_, ?_, ?_⟩
  · simp [Occurrence.text]
  · rw [depthBehind?_shorten]
    exact hclosed
  · intro c hc
    refine hhead c ?_
    rw [List.head?_append] at hc ⊢
    rwa [head?_shorten] at hc
  · obtain ⟨behind, hvar, -⟩ := hwritten.exists_text_eq
    rw [hvar, List.append_assoc] at hclear ⊢
    exact hclear.of_var _

theorem length_bareReference_lt (h : o.IsWritten) (d : Text) :
    (bareReference o.name).length < (o.text ++ d ++ ")").length := by
  obtain ⟨-, -, gap, gap', gap'', -, -, -, htext⟩ := h
  rw [htext]
  simp [bareReference_eq, ofReference]
  omega

theorem length_shorten_le (root : Bindings) (t : Text) :
    (shorten root t).length ≤ t.length := by
  induction t using occurrence_induction with
  | none t h => rw [shorten_of_none root h]
  | some t f h ihFallback ihRest =>
    obtain ⟨rfl, hwritten, -⟩ := occurrence?_eq_some_iff.mp h
    have hbare := length_bareReference_lt hwritten f.fallback
    rw [shorten_of_some root h, Occurrence.text]
    have hclose : (")" : Text).length = 1 := rfl
    by_cases hf : root.Holds f
    · rw [if_pos hf]
      simp only [List.length_append, List.length_cons, hclose] at hbare ⊢
      omega
    · rw [if_neg hf]
      simp only [List.length_append, List.length_cons, hclose]
      omega

/-! ## Shortening twice -/

theorem append_closing_inj {s s' t t' : Text} (hs : s'.length ≤ s.length)
    (ht : t'.length ≤ t.length) : s' ++ ")" ++ t' = s ++ ")" ++ t ↔ s' = s ∧ t' = t := by
  refine ⟨fun h => ?_, fun ⟨hs, ht⟩ => by rw [hs, ht]⟩
  have hlength := congrArg List.length h
  simp only [List.length_append] at hlength
  obtain ⟨hs, ht⟩ := List.append_inj h (by simp only [List.length_append]; omega)
  exact ⟨List.append_cancel_right hs, ht⟩

/-- No reference that keeps its fallback has one that is, once it is shortened itself, the value that
the root holds. -/
def IsSettled (root : Bindings) (t : Text) : Prop :=
  ∀ o d, Edit.keep o d ∈ edits root t →
    root.get? (ofReference o.name) ≠ some (Text.strip (shorten root d))

theorem isSettled_of_holds (h : occurrence? t = some f) (hf : root.Holds f) :
    IsSettled root t ↔ IsSettled root f.rest := by
  simp only [IsSettled, edits_of_some root h, hf, if_true, List.mem_append, List.mem_cons,
    List.not_mem_nil, or_false, reduceCtorEq, false_or]

theorem isSettled_of_not_holds (h : occurrence? t = some f) (hf : ¬ root.Holds f) :
    IsSettled root t ↔
      root.get? (ofReference f.opening.name) ≠ some (Text.strip (shorten root f.fallback)) ∧
        IsSettled root f.fallback ∧ IsSettled root f.rest := by
  have hmem : ∀ o d, Edit.keep o d ∈ edits root t ↔ o = f.opening ∧ d = f.fallback ∨
      Edit.keep o d ∈ edits root f.fallback ∨ Edit.keep o d ∈ edits root f.rest := by
    simp [edits_of_some root h, hf]
  simp only [IsSettled, hmem]
  constructor
  · intro hall
    exact ⟨hall _ _ (.inl ⟨rfl, rfl⟩), fun o d hkeep => hall o d (.inr (.inl hkeep)),
      fun o d hkeep => hall o d (.inr (.inr hkeep))⟩
  · rintro ⟨hfirst, hfallback, hrest⟩ o d (⟨rfl, rfl⟩ | hkeep | hkeep)
    · exact hfirst
    · exact hfallback o d hkeep
    · exact hrest o d hkeep

/-- **A second shortening finds nothing to do exactly when a text is settled.** -/
theorem shorten_shorten_eq_self_iff :
    shorten root (shorten root t) = shorten root t ↔ IsSettled root t := by
  induction t using occurrence_induction with
  | none t h =>
    rw [shorten_of_none root h, shorten_of_none root h, IsSettled, edits_of_none root h]
    simp
  | some t f h ihFallback ihRest =>
    by_cases hf : root.Holds f
    · rw [isSettled_of_holds h hf, shorten_shorten_of_holds h hf, shorten_of_some root h, if_pos hf,
        List.append_right_inj]
      exact ihRest
    have hagain := occurrence?_shorten h hf
    obtain ⟨-, hwritten, -⟩ := occurrence?_eq_some_iff.mp h
    rw [isSettled_of_not_holds h hf, shorten_of_some root hagain, shorten_of_some root h, if_neg hf]
    by_cases hsame : root.Holds ⟨f.before, f.opening, shorten root f.fallback, shorten root f.rest⟩
    · -- the first reference loses its fallback now: the text gets shorter
      rw [if_pos hsame]
      refine iff_of_false (fun heq => ?_) fun hsettled => hsettled.1 hsame
      have hlength := congrArg List.length heq
      have hbare := length_bareReference_lt hwritten (shorten root f.fallback)
      have hrest := length_shorten_le root (shorten root f.rest)
      simp only [List.length_append] at hlength hbare
      omega
    · rw [if_neg hsame, ← ihFallback, ← ihRest]
      simp only [List.append_assoc, List.append_right_inj]
      rw [← List.append_assoc, ← List.append_assoc, append_closing_inj (length_shorten_le root _)
        (length_shorten_le root _)]
      exact ⟨fun h => ⟨hsame, h⟩, fun h => h.2⟩

end ThemedCss
