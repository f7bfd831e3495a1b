import ThemedCss.Proofs.Text.Strip
import ThemedCss.Proofs.Variable.Shortening

/-!
# What a text says in an environment

In an environment every reference of a text stands for the value of its name, and where the name has
none for its fallback. Shortening for a root takes fallbacks away, but only those of names that the
root has: where these have values, whatever values they are, the text says the same as before.

* `bare?`, `inline?`: a reference at the front of a text, without and with a fallback;
* `expand`: a text with its references replaced, from left to right;
* `strip_shorten`: blanks at the ends of a text are no matter of shortening;
* `expand_append`, `expand_of_occurrence`: what a text says up to its first reference, and from there;
* **`expand_shorten`**: a shortened text says what the text says.
-/

namespace ThemedCss

open Variable

namespace Variable

/-! ## References at the front of a text -/

/-- A reference without a fallback at the front of a text: its name, and what stands behind it. -/
def bare? (t : Text) : Option (Text × Text) := do
  let inner ← ("var(" : Text).isPrefixOf? t
  let named ← ("--" : Text).isPrefixOf? (inner.dropWhile Text.isBlank)
  let name ← Option.guard (· ≠ []) (named.takeWhile isNameChar)
  let rest ← (")" : Text).isPrefixOf? ((named.dropWhile isNameChar).dropWhile Text.isBlank)
  return (name, rest)

/-- A reference with a fallback at the front of a text: its name, its fallback with the blanks around
it, and what stands behind it. One that is never closed is none. -/
def inline? (t : Text) : Option (Text × Text × Text) := do
  let (o, behind) ← opening? t
  let (fallback, rest) ← closingSplit? 0 behind
  return (o.name, fallback, rest)

/-- The text of a reference without a fallback. -/
def IsBare (name text : Text) : Prop :=
  name ≠ [] ∧ (∀ c ∈ name, isNameChar c = true) ∧
    ∃ gap gap' : Text, (∀ c ∈ gap, Text.isBlank c = true) ∧ (∀ c ∈ gap', Text.isBlank c = true) ∧
      text = "var(" ++ (gap ++ ("--" ++ (name ++ (gap' ++ ")"))))

variable {t s name fallback rest : Text} {o : Opening} {f : Occurrence}

theorem bare?_eq_some_iff : bare? t = some (name, rest) ↔
    ∃ text, IsBare name text ∧ t = text ++ rest := by
  constructor
  · intro h
    simp only [bare?, Option.bind_eq_bind, Option.bind_eq_some_iff, Option.pure_def,
      Option.some.injEq, Prod.mk.injEq, Option.guard_eq_some_iff] at h
    obtain ⟨inner, h₁, named, h₂, name, ⟨rfl, hname⟩, behind, h₃, rfl, rfl⟩ := h
    rw [List.isPrefixOf?_eq_some_iff_append_eq] at h₁ h₂ h₃
    refine ⟨_, ⟨of_decide_eq_true hname, fun c hc => List.mem_takeWhile_imp hc,
      inner.takeWhile Text.isBlank, (named.dropWhile isNameChar).takeWhile Text.isBlank,
      fun c hc => List.mem_takeWhile_imp hc, fun c hc => List.mem_takeWhile_imp hc, rfl⟩, ?_⟩
    have e₁ := List.takeWhile_append_dropWhile (p := Text.isBlank) (l := inner)
    have e₂ := List.takeWhile_append_dropWhile (p := isNameChar) (l := named)
    have e₃ := List.takeWhile_append_dropWhile (p := Text.isBlank) (l := named.dropWhile isNameChar)
    simp only [List.append_assoc]
    rw [h₃, e₃, e₂, h₂, e₁, h₁]
  · rintro ⟨text, ⟨hne, hname, gap, gap', hgap, hgap', rfl⟩, rfl⟩
    have hhyphen : ∀ c ∈ ("--" ++ (name ++ (gap' ++ (")" ++ rest)))).head?,
        Text.isBlank c = false := by
      intro c hc
      obtain rfl : '-' = c := Option.some.inj hc
      decide
    have hclose : ∀ c ∈ (")" ++ rest : Text).head?, Text.isBlank c = false := by
      intro c hc
      obtain rfl : ')' = c := Option.some.inj hc
      decide
    have hbetween : ∀ c ∈ (gap' ++ (")" ++ rest) : Text).head?, isNameChar c = false := by
      refine isNameChar_head?_append hgap' fun c hc => ?_
      obtain rfl : ')' = c := Option.some.inj hc
      decide
    simp only [bare?, List.append_assoc, isPrefixOf?_append, dropWhile_append_eq hgap hhyphen,
      takeWhile_append_eq hname hbetween, dropWhile_append_eq hname hbetween,
      dropWhile_append_eq hgap' hclose, Option.bind_eq_bind, Option.bind_some, Option.guard]
    rw [if_pos (decide_eq_true hne)]
    rfl

theorem bare?_rest_lt (h : bare? t = some (name, rest)) : rest.length < t.length := by
  obtain ⟨text, ⟨-, -, gap, gap', -, -, rfl⟩, rfl⟩ := bare?_eq_some_iff.mp h
  simp
  omega

theorem inline?_eq_append (h : inline? t = some (name, fallback, rest)) :
    ∃ o, o.name = name ∧ opening? t = some (o, fallback ++ ')' :: rest) ∧
      closingSplit? 0 (fallback ++ ')' :: rest) = some (fallback, rest) := by
  simp only [inline?, Option.bind_eq_bind, Option.bind_eq_some_iff, Option.pure_def,
    Option.some.injEq, Prod.mk.injEq] at h
  obtain ⟨⟨o, behind⟩, ho, ⟨_, _⟩, hsplit, rfl, rfl, rfl⟩ := h
  obtain rfl := closingSplit?_eq_append hsplit
  exact ⟨o, rfl, ho, hsplit⟩

theorem inline?_fallback_lt (h : inline? t = some (name, fallback, rest)) :
    (Text.strip fallback).length < t.length := by
  obtain ⟨o, -, ho, -⟩ := inline?_eq_append h
  have hstrip := strip_length_le fallback
  rw [opening?_eq_append ho]
  simp
  omega

theorem inline?_rest_lt (h : inline? t = some (name, fallback, rest)) :
    rest.length < t.length := by
  obtain ⟨o, -, ho, -⟩ := inline?_eq_append h
  rw [opening?_eq_append ho]
  simp
  omega

/-! ## References in front of another `var(` -/

theorem exists_eq_append_of_var {text before y : Text} (hbare : IsBare name text)
    (hbefore : before ≠ []) (ht : before ++ ("var(" ++ y) = text ++ rest) :
    ∃ more, before = text ++ more ∧ rest = more ++ ("var(" ++ y) := by
  obtain ⟨-, hname, gap, gap', hgap, hgap', rfl⟩ := hbare
  rcases List.append_eq_append_iff.mp ht with ⟨reach, hreach, hvar⟩ | ⟨more, hmore, hrest⟩
  · have hopen : '(' ∉ (gap ++ ("--" ++ (name ++ (gap' ++ ")"))) : Text) := by
      intro hc
      simp only [List.mem_append] at hc
      rcases hc with hc | hc | hc | hc | hc
      · cases hgap _ hc
      · exact absurd hc (by decide)
      · cases hname _ hc
      · cases hgap' _ hc
      · exact absurd hc (by decide)
    have hlast : ("var(" ++ (gap ++ ("--" ++ (name ++ (gap' ++ ")")))) : Text).getLast? =
        some ')' := by
      simp only [← List.append_assoc]
      exact List.getLast?_concat
    have hnil : reach = [] := by
      refine eq_nil_of_var_eq_append hbefore hopen (fun c hc => ?_) hreach hvar
      obtain rfl : ')' = c := Option.some.inj (hlast.symm.trans hc)
      decide
    subst hnil
    exact ⟨[], by simpa using hreach.symm, by simpa using hvar.symm⟩
  · exact ⟨more, hmore, hrest⟩

theorem bare?_append_of_var {before : Text} (hbefore : before ≠ []) (y : Text) :
    bare? (before ++ ("var(" ++ y)) =
      (bare? before).map fun (name, rest) => (name, rest ++ ("var(" ++ y)) := by
  ext ⟨name, rest⟩
  simp only [Option.map_eq_some_iff, Prod.exists, Prod.mk.injEq]
  constructor
  · intro h
    obtain ⟨text, hbare, ht⟩ := bare?_eq_some_iff.mp h
    obtain ⟨more, rfl, rfl⟩ := exists_eq_append_of_var hbare hbefore ht
    exact ⟨name, more, bare?_eq_some_iff.mpr ⟨text, hbare, rfl⟩, rfl, rfl⟩
  · rintro ⟨_, more, h, rfl, rfl⟩
    obtain ⟨text, hbare, rfl⟩ := bare?_eq_some_iff.mp h
    exact bare?_eq_some_iff.mpr ⟨text, hbare, List.append_assoc _ _ _⟩

theorem inline?_eq_none_of_opening? (h : opening? t = none) : inline? t = none := by
  simp [inline?, h]

theorem IsClear.of_suffix {b before : Text} (h : IsClear before t) (hb : b <:+ before) :
    IsClear b t :=
  fun b' hne hsuffix => h b' hne (hsuffix.trans hb)

end Variable

/-- A text with its references replaced by what they stand for in an environment, from left to right:
the value of the name, and where the name has none the fallback with its own references replaced. A
reference without value and fallback stays as it is, and so does an opening that is never closed. -/
def expand (e : Bindings) (t : Text) : Text :=
  match t with
  | [] => []
  | c :: u =>
    match _h : inline? (c :: u) with
    | some (name, fallback, rest) =>
      (e.get? (ofReference name)).getD (expand e (Text.strip fallback)) ++ expand e rest
    | none =>
      match _h' : bare? (c :: u) with
      | some (name, rest) =>
        match e.get? (ofReference name) with
        | some v => v ++ expand e rest
        | none => c :: expand e u
      | none => c :: expand e u
termination_by t.length
decreasing_by
  · exact inline?_fallback_lt _h
  · exact inline?_rest_lt _h
  · exact bare?_rest_lt _h'
  · exact Nat.lt_succ_self _
  · exact Nat.lt_succ_self _

variable {root e : Bindings} {t before name fallback rest : Text} {f : Occurrence}

theorem expand_of_inline (e : Bindings) (h : inline? t = some (name, fallback, rest)) :
    expand e t =
      (e.get? (ofReference name)).getD (expand e (Text.strip fallback)) ++ expand e rest := by
  cases t with
  | nil => cases h
  | cons c u =>
    rw [expand]
    split
    · simp_all
    · simp_all

theorem expand_of_bare {v : Text} (hinline : inline? t = none) (hbare : bare? t = some (name, rest))
    (hv : e.get? (ofReference name) = some v) : expand e t = v ++ expand e rest := by
  cases t with
  | nil => cases hbare
  | cons c u =>
    rw [expand]
    split
    · simp_all
    · split
      · simp_all
      · simp_all

theorem expand_of_free {c : Char} {u : Text} (hinline : inline? (c :: u) = none)
    (hbare : ∀ name rest, bare? (c :: u) = some (name, rest) → e.get? (ofReference name) = none) :
    expand e (c :: u) = c :: expand e u := by
  rw [expand]
  split
  · simp_all
  · split
    · rename_i h
      simp [hbare _ _ h]
    · rfl

/-! ## What a text says up to its first reference -/

theorem expand_append {y : Text} (e : Bindings) (h : IsClear before ("var(" ++ y)) :
    expand e (before ++ ("var(" ++ y)) = expand e before ++ expand e ("var(" ++ y) := by
  induction hlen : before.length using Nat.strong_induction_on generalizing before with
  | _ n ih =>
    subst hlen
    cases before with
    | nil => rw [List.nil_append, expand, List.nil_append]
    | cons c b =>
      have hnone : opening? (c :: b ++ ("var(" ++ y)) = none :=
        h (c :: b) (List.cons_ne_nil c b) (List.suffix_refl _)
      have hinline' := inline?_eq_none_of_opening? hnone
      have hinline : inline? (c :: b) = none := inline?_eq_none_of_opening?
        ((opening?_append_var_eq_none_iff (List.cons_ne_nil c b)).mp hnone)
      have hbare := bare?_append_of_var (List.cons_ne_nil c b) y
      -- what is not a reference with a value is copied
      have hcopy (hfree : ∀ name rest, bare? (c :: b) = some (name, rest) →
          e.get? (ofReference name) = none) :
          expand e (c :: b ++ ("var(" ++ y)) = expand e (c :: b) ++ expand e ("var(" ++ y) := by
        have htail := ih b.length (by simp) h.tail rfl
        rw [expand_of_free hinline hfree, List.cons_append, List.cons_append, ← htail]
        refine expand_of_free hinline' fun name rest hr => ?_
        rw [← List.cons_append, hbare] at hr
        obtain ⟨⟨_, more⟩, hmore, he⟩ := Option.map_eq_some_iff.mp hr
        cases he
        exact hfree _ _ hmore
      cases hb : bare? (c :: b) with
      | none =>
        refine hcopy fun name rest hr => ?_
        rw [hb] at hr
        cases hr
      | some found =>
        obtain ⟨name, more⟩ := found
        cases hv : e.get? (ofReference name) with
        | none =>
          refine hcopy fun name' rest hr => ?_
          rw [hb] at hr
          cases hr
          exact hv
        | some v =>
          have hlt := bare?_rest_lt hb
          have hclear : IsClear more ("var(" ++ y) := by
            obtain ⟨text, -, htext⟩ := bare?_eq_some_iff.mp hb
            exact h.of_suffix ⟨text, htext.symm⟩
          rw [hb] at hbare
          rw [expand_of_bare hinline hb hv, expand_of_bare hinline' hbare hv, List.append_assoc,
            ih _ hlt hclear rfl]

/-- **A text up to its first reference, the reference, and the text behind it.** -/
theorem expand_of_occurrence (e : Bindings) (h : occurrence? t = some f) :
    expand e t = expand e f.before ++
      ((e.get? (ofReference f.opening.name)).getD (expand e (Text.strip f.fallback)) ++
        expand e f.rest) := by
  obtain ⟨rfl, hwritten, hdepth, hhead, hclear⟩ := occurrence?_eq_some_iff.mp h
  obtain ⟨behind, hvar, -⟩ := hwritten.exists_text_eq
  have hinline : inline? (f.opening.text ++ (f.fallback ++ ')' :: f.rest)) =
      some (f.opening.name, f.fallback, f.rest) := by
    have hopening := opening?_eq_some_iff.mpr ⟨hwritten, rfl, hhead⟩
    have hsplit : closingSplit? 0 (f.fallback ++ ')' :: f.rest) = some (f.fallback, f.rest) :=
      closingSplit?_eq_some_iff.mpr ⟨rfl, hdepth⟩
    simp only [inline?, hopening, hsplit, Option.bind_eq_bind, Option.bind_some]
    rfl
  rw [Occurrence.text, List.append_assoc, List.append_assoc, ← expand_of_inline e hinline]
  rw [hvar, List.append_assoc] at hclear ⊢
  exact expand_append e hclear

/-! ## Blanks at the ends of a text -/

theorem isClear_of_blank (h : ∀ c ∈ before, Text.isBlank c = true) (t : Text) :
    IsClear before t := by
  refine isClear_of_forall fun b o rest hb hsuffix hwritten htext _ => ?_
  obtain ⟨behind, hvar, -⟩ := hwritten.exists_text_eq
  obtain ⟨c, b, rfl⟩ := List.exists_cons_of_ne_nil hb
  rw [hvar] at htext
  obtain ⟨rfl, -⟩ := List.cons.inj htext
  cases h 'v' (hsuffix.subset List.mem_cons_self)

theorem occurrence?_append_blanks {u : Text} (hu : ∀ c ∈ u, Text.isBlank c = true) (t : Text) :
    occurrence? (t ++ u) = (occurrence? t).map fun f => { f with rest := f.rest ++ u } := by
  cases h : occurrence? t with
  | none =>
    refine Option.eq_none_iff_forall_ne_some.mpr fun f hf => ?_
    have htext := occurrence?_eq_append hf
    -- the closing parenthesis is no blank, so that the blanks stand behind it
    have hle : f.front.length ≤ t.length := by
      by_contra hlt
      obtain ⟨blanks, hblanks⟩ : t <+: f.front :=
        List.prefix_of_prefix_length_le ⟨u, rfl⟩ ⟨f.rest, htext.symm⟩ (by omega)
      have hne : blanks ≠ [] := by
        rintro rfl
        rw [← hblanks, List.append_nil] at hlt
        exact hlt (le_refl _)
      have hlast := congrArg List.getLast? hblanks
      rw [Occurrence.front, List.getLast?_concat, List.getLast?_append_of_ne_nil t hne] at hlast
      rw [← hblanks, List.append_assoc, List.append_cancel_left_eq] at htext
      cases hu ')' (htext ▸ List.mem_append_left _ (List.mem_of_getLast? hlast))
    obtain ⟨rest, -, -, ht⟩ := exists_rest_of_length_le hf hle
    rw [h] at ht
    cases ht
  | some f => exact occurrence?_behind h u

theorem Variable.Traverses.append_blanks {α : Type} {F between : Text → List α}
    {each : Opening → Text → List α} (h : Traverses F between each) {u : Text}
    (hu : ∀ c ∈ u, Text.isBlank c = true) (t : Text) : F (t ++ u) = F t ++ between u := by
  induction t using occurrence_induction with
  | none t hf =>
    have happend := occurrence?_append_blanks hu t
    rw [hf] at happend
    rw [h.of_none hf, h.of_none happend, h.between_append]
  | some t f hf _ ihRest =>
    rw [h.of_some hf, h.of_some (occurrence?_behind hf u), ihRest]
    simp only [List.append_assoc]

theorem shorten_append_blanks {u : Text} (root : Bindings) (hu : ∀ c ∈ u, Text.isBlank c = true)
    (t : Text) : shorten root (t ++ u) = shorten root t ++ u :=
  (traverses_shorten root).append_blanks hu t

theorem getLast?_shorten (root : Bindings) (t : Text) : (shorten root t).getLast? = t.getLast? := by
  induction t using occurrence_induction with
  | none t h => rw [shorten_of_none root h]
  | some t f h _ ihRest =>
    have hclose : ∀ s : Text, (s ++ ")").getLast? = some ')' := fun s => List.getLast?_concat
    have hshort : (if root.Holds f then bareReference f.opening.name
        else f.opening.text ++ shorten root f.fallback ++ ")").getLast? = some ')' := by
      by_cases hf : root.Holds f
      · rw [if_pos hf]
        exact hclose _
      · rw [if_neg hf]
        exact hclose _
    conv_rhs => rw [occurrence?_eq_append h, List.getLast?_append, Occurrence.front,
      List.getLast?_concat]
    rw [shorten_of_some root h, List.getLast?_append, List.getLast?_append, ihRest, hshort]
    rfl

theorem strip_shorten (root : Bindings) (t : Text) :
    Text.strip (shorten root t) = shorten root (Text.strip t) := by
  obtain ⟨s, u, ht, hs, hu⟩ := Text.exists_eq_append_strip t
  have hself : Text.strip (shorten root (Text.strip t)) = shorten root (Text.strip t) := by
    rw [Text.strip_eq_self_iff, head?_shorten, getLast?_shorten, ← Text.strip_eq_self_iff,
      Text.strip_strip]
  have hshort : shorten root t = s ++ (shorten root (Text.strip t) ++ u) := by
    conv_lhs => rw [ht, List.append_assoc, shorten_append root (isClear_of_blank hs _)]
    rw [shorten_append_blanks root hu]
  rw [hshort, Text.strip_append_of_blank hs, Text.strip_append_blanks hu, hself]

/-! ## A shortened text says what the text says -/

theorem expand_bareReference {v : Text} (hwritten : f.opening.IsWritten) (rest : Text)
    (hv : e.get? (ofReference f.opening.name) = some v) :
    expand e (bareReference f.opening.name ++ rest) = v ++ expand e rest := by
  have hinline : inline? (bareReference f.opening.name ++ rest) = none :=
    inline?_eq_none_of_opening? (isClear_bareReference hwritten rest _ (by simp [bareReference_eq])
      (List.suffix_refl _))
  have hbare : bare? (bareReference f.opening.name ++ rest) = some (f.opening.name, rest) := by
    refine bare?_eq_some_iff.mpr ⟨_, ⟨hwritten.1, hwritten.2.1, [], [], by simp, by simp, ?_⟩, rfl⟩
    simp [bareReference_eq, ofReference]
  exact expand_of_bare hinline hbare hv

/-- **In an environment that binds what the root binds, to whatever values, a text that is shortened
for the root says what the text says.** -/
theorem expand_shorten (h : ∀ n, root.get? n ≠ none → e.get? n ≠ none) (t : Text) :
    expand e (shorten root t) = expand e t := by
  induction hlen : t.length using Nat.strong_induction_on generalizing t with
  | _ n ih =>
    subst hlen
    cases hf : occurrence? t with
    | none => rw [shorten_of_none root hf]
    | some f =>
      obtain ⟨-, hwritten, -, -, hclear⟩ := occurrence?_eq_some_iff.mp hf
      have ihRest := ih _ (occurrence?_rest_lt hf) f.rest rfl
      by_cases hholds : root.Holds f
      · -- the name is in the root, so that its value stands here with and without the fallback
        have hbound : e.get? (ofReference f.opening.name) ≠ none := by
          refine h _ ?_
          rw [show root.get? _ = some _ from hholds]
          exact Option.some_ne_none _
        obtain ⟨v, hv⟩ := Option.ne_none_iff_exists'.mp hbound
        obtain ⟨behind, hvar, -⟩ := hwritten.exists_text_eq
        rw [hvar, List.append_assoc] at hclear
        rw [expand_of_occurrence e hf, hv, Option.getD_some, ← ihRest,
          ← expand_bareReference hwritten _ hv, shorten_of_some root hf, if_pos hholds,
          List.append_assoc, bareReference_eq, List.append_assoc]
        exact expand_append e (hclear.of_var _)
      · have hlt : (Text.strip f.fallback).length < t.length :=
          Nat.lt_of_le_of_lt (strip_length_le f.fallback) (occurrence?_fallback_lt hf)
        have ihFallback := ih _ hlt (Text.strip f.fallback) rfl
        rw [expand_of_occurrence e hf, expand_of_occurrence e (occurrence?_shorten hf hholds)]
        simp only [strip_shorten, ihFallback, ihRest]

/-- A fallback is taken away inside another one, a second one differs from the root's value, and the
last reference is never closed. -/
theorem expand_shorten_nested :
    let root : Bindings := OrderedMap.empty.insert "--a" "x"
    let e : Bindings := OrderedMap.empty.insert "--a" "y"
    let t : Text := "f(var(--b, var(--a, x)) var( --a ) var(--a, z)) var(--b, var(--a, x)"
    shorten root t = "f(var(--b, var(--a)) var( --a ) var(--a, z)) var(--b, var(--a, x)" ∧
      expand e t = "f(y y y) var(--b, y" ∧ expand e (shorten root t) = expand e t := by
  refine ⟨by decide +kernel, by decide +kernel, expand_shorten (fun n hn => ?_) _⟩
  have hname : n = "--a" := by
    by_contra h
    rw [OrderedMap.get?_insert, if_neg (Ne.symm h)] at hn
    exact hn rfl
  rw [hname, OrderedMap.get?_insert_self]
  exact Option.some_ne_none _

end ThemedCss
