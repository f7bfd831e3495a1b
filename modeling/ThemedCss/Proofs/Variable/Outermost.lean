import ThemedCss.Proofs.Variable.Inline

/-!
# Outermost references

The scanner tells the references of a text by their places. What it yields is read off the text
without it: which openings there are, and which of them are closed.

* `slice`, `OpensAt`, `IsUnclosedAt`: a part of a text, and what opens at a place in it;
* `IsSpan`: the text at the places of a reference;
* `Outermost`, **`outermost_referencesFrom`**: the references of a text, and the openings beside
  them;
* `openingsIn`, **`countP_opensAt_eq`**: each opening in front of the end of the last reference is
  counted once, be it inside a fallback or not;
* `Registry.scanEach_eq`, `shortenEach_eq`: counting and shortening as loops over the scanner, which
  go on inside fallbacks;
* **`references_outermost`**: all of it.
-/

namespace ThemedCss

namespace Variable

variable {t u before behind rest s : Text} {o : Opening} {f : Occurrence} {place start : Nat}
  {ref : Reference} {refs : List Reference}

/-! ## Parts and places -/

/-- The part of a text from one place to before another. -/
def slice (t : Text) (start stop : Nat) : Text := (t.take stop).drop start

theorem slice_append (before s behind : Text) :
    slice (before ++ (s ++ behind)) before.length (before.length + s.length) = s := by
  rw [slice, List.take_length_add_append, List.drop_left, List.take_left]

theorem slice_eq (before behind : Text) {start stop : Nat} (ht : t = before ++ (s ++ behind))
    (hstart : start = before.length) (hstop : stop = start + s.length) : slice t start stop = s := by
  rw [ht, hstop, hstart, slice_append]

/-- Whether a reference with a fallback is opened at a place of a text. -/
def OpensAt (t : Text) (place : Nat) : Prop :=
  ∃ o : Opening, o.IsWritten ∧ o.text <+: t.drop place

/-- Whether what is opened at a place of a text is never closed: no closing parenthesis stands
behind a text with balanced parentheses there. -/
def IsUnclosedAt (t : Text) (place : Nat) : Prop :=
  ∀ o : Opening, o.IsWritten → ∀ raw, o.text ++ raw ++ [')'] <+: t.drop place → ¬ IsBalanced raw

theorem opening?_append_of_isWritten (h : o.IsWritten) (rest : Text) :
    opening? (o.text ++ rest) =
      some (⟨o.text ++ rest.takeWhile Text.isBlank, o.name⟩, rest.dropWhile Text.isBlank) := by
  obtain ⟨hne, hname, gap, gap', gap'', hgap, hgap', hgap'', htext⟩ := h
  refine opening?_eq_some_iff.mpr ⟨⟨hne, hname, gap, gap', gap'' ++ rest.takeWhile Text.isBlank,
    hgap, hgap', ?_, ?_⟩, ?_, ?_⟩
  · intro c hc
    rcases List.mem_append.mp hc with hc | hc
    · exact hgap'' c hc
    · exact List.mem_takeWhile_imp hc
  · simp only [htext, List.append_assoc]
  · rw [List.append_assoc, List.takeWhile_append_dropWhile]
  · intro c hc
    have hhead := List.head?_dropWhile_not Text.isBlank rest
    simp_all

theorem opensAt_iff : OpensAt t place ↔ (opening? (t.drop place)).isSome = true := by
  rw [Option.isSome_iff_exists]
  constructor
  · rintro ⟨o, hwritten, rest, hrest⟩
    rw [← hrest]
    exact ⟨_, opening?_append_of_isWritten hwritten rest⟩
  · rintro ⟨⟨o, rest⟩, ho⟩
    obtain ⟨hwritten, htext, -⟩ := opening?_eq_some_iff.mp ho
    exact ⟨o, hwritten, rest, htext.symm⟩

instance : DecidablePred (OpensAt t) := fun _ => decidable_of_iff _ opensAt_iff.symm

theorem not_opensAt_iff : ¬ OpensAt t place ↔ opening? (t.drop place) = none := by
  rw [opensAt_iff, Option.not_isSome_iff_eq_none]

theorem not_opensAt_of_length_le (h : t.length ≤ place) : ¬ OpensAt t place := by
  rw [not_opensAt_iff, List.drop_eq_nil_of_le h]
  rfl

theorem IsClear.not_opensAt (h : IsClear s behind) (hle : before.length ≤ place)
    (hlt : place < before.length + s.length) : ¬ OpensAt (before ++ (s ++ behind)) place := by
  rw [not_opensAt_iff, List.drop_append, List.drop_eq_nil_of_le hle, List.nil_append,
    List.drop_append_of_le_length (by omega)]
  refine h _ ?_ (List.drop_suffix _ s)
  rw [ne_eq, List.drop_eq_nil_iff]
  omega

/-! ## The text of a reference -/

/-- The text at the places of a reference: its opening, a fallback with balanced parentheses and the
closing one. The blanks in front of the fallback belong to the opening. -/
structure IsSpan (t : Text) (ref : Reference) : Prop where
  opening : ∃ o : Opening, o.IsWritten ∧ o.name = ref.name ∧
    slice t ref.start ref.fallbackStart = o.text
  start_lt : ref.start < ref.fallbackStart
  unspaced : ∀ c ∈ (slice t ref.fallbackStart ref.fallbackStop).head?, Text.isBlank c = false
  count_eq : (slice t ref.fallbackStart ref.fallbackStop).count '(' =
    (slice t ref.fallbackStart ref.fallbackStop).count ')'
  count_le : ∀ front, front <+: slice t ref.fallbackStart ref.fallbackStop →
    front.count ')' ≤ front.count '('
  fallback_eq : ref.fallback = Text.strip (slice t ref.fallbackStart ref.fallbackStop)
  fallbackStart_le : ref.fallbackStart ≤ ref.fallbackStop
  closing : slice t ref.fallbackStop ref.stop = [')']
  stop_eq : ref.stop = ref.fallbackStop + 1

/-- Where the last one of some references ends, or another place when there is none. -/
def lastStop (start : Nat) : List Reference → Nat
  | [] => start
  | ref :: refs => lastStop ref.stop refs

/-- Some references are the outermost ones of a text from a place on: one stands behind the other,
no opening starts between them, and behind the last one there is none or the first one is never
closed. -/
structure Outermost (t : Text) (start : Nat) (refs : List Reference) : Prop where
  span : ∀ ref ∈ refs, IsSpan t ref
  start_le : ∀ ref ∈ refs, start ≤ ref.start
  ordered : refs.Pairwise fun ref next => ref.stop ≤ next.start
  between : ∀ place, start ≤ place → place < lastStop start refs → OpensAt t place →
    ∃ ref ∈ refs, ref.start ≤ place ∧ place < ref.stop
  behind : (∀ place, lastStop start refs ≤ place → ¬ OpensAt t place) ∨
    ∃ place, lastStop start refs ≤ place ∧ OpensAt t place ∧ IsUnclosedAt t place ∧
      ∀ earlier, lastStop start refs ≤ earlier → earlier < place → ¬ OpensAt t earlier

theorem IsSpan.start_lt_stop (h : IsSpan t ref) : ref.start < ref.stop := by
  have := h.start_lt
  have := h.fallbackStart_le
  have := h.stop_eq
  omega

theorem Outermost.cons (h : Outermost t ref.stop refs) (hspan : IsSpan t ref)
    (hstart : start ≤ ref.start)
    (hclear : ∀ place, start ≤ place → place < ref.start → ¬ OpensAt t place) :
    Outermost t start (ref :: refs) where
  span := List.forall_mem_cons.mpr ⟨hspan, h.span⟩
  start_le := by
    refine List.forall_mem_cons.mpr ⟨hstart, fun next hnext => ?_⟩
    have := h.start_le next hnext
    have := hspan.start_lt_stop
    omega
  ordered := List.pairwise_cons.mpr ⟨h.start_le, h.ordered⟩
  between place hle hlt hopens := by
    by_cases hfirst : place < ref.start
    · exact absurd hopens (hclear place hle hfirst)
    by_cases hinside : place < ref.stop
    · exact ⟨ref, List.mem_cons_self, Nat.le_of_not_lt hfirst, hinside⟩
    · obtain ⟨next, hnext, hplace⟩ := h.between place (Nat.le_of_not_lt hinside) hlt hopens
      exact ⟨next, List.mem_cons_of_mem _ hnext, hplace⟩
  behind := h.behind

/-! ## What the scanner yields -/

theorem slice_reference (before : Text) (hf : occurrence? u = some f) :
    slice (before ++ u) before.length (f.reference before.length).start = f.before ∧
      slice (before ++ u) (f.reference before.length).start
        (f.reference before.length).fallbackStart = f.opening.text ∧
      slice (before ++ u) (f.reference before.length).fallbackStart
        (f.reference before.length).fallbackStop = f.fallback ∧
      slice (before ++ u) (f.reference before.length).fallbackStop
        (f.reference before.length).stop = [')'] := by
  rw [← occurrence?_text hf, Occurrence.text]
  refine ⟨slice_eq before (f.opening.text ++ (f.fallback ++ ')' :: f.rest)) ?_ rfl rfl,
    slice_eq (before ++ f.before) (f.fallback ++ ')' :: f.rest) ?_ ?_ rfl,
    slice_eq (before ++ f.before ++ f.opening.text) (')' :: f.rest) ?_ ?_ rfl,
    slice_eq (before ++ f.before ++ f.opening.text ++ f.fallback) f.rest ?_ ?_ ?_⟩
  all_goals simp [Occurrence.reference, Occurrence.front, Nat.add_assoc]

theorem isSpan_of_occurrence? (hf : occurrence? u = some f) (before : Text) :
    IsSpan (before ++ u) (f.reference before.length) := by
  obtain ⟨-, hopening, hfallback, hclosing⟩ := slice_reference before hf
  obtain ⟨-, hwritten, hdepth, hhead, -⟩ := occurrence?_eq_some_iff.mp hf
  obtain ⟨opened, hvar, -⟩ := hwritten.exists_text_eq
  obtain ⟨hcount, hfront⟩ := isBalanced_iff_count.mp hdepth
  have hunspaced : ∀ c ∈ f.fallback.head?, Text.isBlank c = false := by
    intro c hc
    refine hhead c ?_
    rw [List.head?_append, hc]
    rfl
  have hpos : 0 < f.opening.text.length := by simp [hvar]
  have hstop : (f.reference before.length).stop = (f.reference before.length).fallbackStop + 1 := by
    simp only [Occurrence.reference, f.length_front]
    omega
  rw [← hfallback] at hcount hfront hunspaced
  exact ⟨⟨f.opening, hwritten, rfl, hopening⟩, Nat.lt_add_of_pos_right hpos, hunspaced, hcount, hfront,
    congrArg Text.strip hfallback.symm, Nat.le_add_right _ _, hclosing, hstop⟩

theorem isUnclosedAt_of_closingSplit? (hdrop : t.drop place = o.text ++ behind)
    (hopening : opening? (o.text ++ behind) = some (o, behind))
    (hsplit : closingSplit? 0 behind = none) : IsUnclosedAt t place := by
  rintro o' hwritten raw ⟨rest, hrest⟩ hbalanced
  rw [hdrop, List.append_assoc, List.append_assoc] at hrest
  rw [← hrest, opening?_append_of_isWritten hwritten] at hopening
  obtain ⟨-, hbehind⟩ := Prod.mk.inj (Option.some.inj hopening)
  -- what is left of the fallback behind its first blanks is balanced as well
  have hraw : raw = raw.takeWhile Text.isBlank ++ raw.dropWhile Text.isBlank :=
    List.takeWhile_append_dropWhile.symm
  have hblanks : IsBalanced (raw.takeWhile Text.isBlank) :=
    .of_blank fun c hc => List.mem_takeWhile_imp hc
  have hfound : closingSplit? 0 behind = some (raw.dropWhile Text.isBlank, rest) := by
    refine closingSplit?_eq_some_iff.mpr ⟨?_, ?_⟩
    · rw [← hbehind, List.dropWhile_append]
      split
      · rename_i hempty
        rw [List.isEmpty_iff.mp hempty]
        rfl
      · rfl
    · rw [IsBalanced, hraw, hblanks.depthBehind?_append_left] at hbalanced
      exact hbalanced
  rw [hsplit] at hfound
  cases hfound

theorem outermost_nil (hu : occurrence? u = none) (before : Text) :
    Outermost (before ++ u) before.length [] := by
  refine ⟨List.forall_mem_nil _, List.forall_mem_nil _, .nil,
    fun place hle hlt => absurd hlt (Nat.not_lt_of_le hle), ?_⟩
  cases hfirst : firstOpening? u with
  | none =>
    refine .inl fun place hle => ?_
    by_cases hlt : place < before.length + u.length
    · have hclear := (isClear_iff.mpr hfirst).not_opensAt hle hlt
      rwa [List.append_nil] at hclear
    · exact not_opensAt_of_length_le (by rw [List.length_append]; omega)
  | some found =>
    obtain ⟨between, o, behind⟩ := found
    obtain ⟨hclear, hopening⟩ := firstOpening?_eq_some hfirst
    have ht : u = between ++ (o.text ++ behind) := by
      rw [firstOpening?_eq_append hfirst, List.append_assoc]
    have hdrop : (before ++ u).drop (before.length + between.length) = o.text ++ behind := by
      rw [ht, ← List.append_assoc, ← List.length_append, List.drop_left]
    have hsplit : closingSplit? 0 behind = none := by
      rw [occurrence?, hfirst] at hu
      exact Option.map_eq_none_iff.mp hu
    refine .inr ⟨before.length + between.length, Nat.le_add_right _ _, ?_, ?_, fun place hle hlt => ?_⟩
    · rw [opensAt_iff, hdrop, hopening]
      rfl
    · exact isUnclosedAt_of_closingSplit? hdrop hopening hsplit
    · rw [ht]
      exact hclear.not_opensAt hle hlt

/-- **The scanner yields the outermost references** of what stands behind a text. -/
theorem outermost_referencesFrom (before u : Text) :
    Outermost (before ++ u) before.length (referencesFrom before.length u) := by
  induction u using occurrence_induction generalizing before with
  | none u h =>
    rw [referencesFrom_of_none _ h]
    exact outermost_nil h before
  | some u f hf _ ihRest =>
    rw [referencesFrom_of_some _ hf]
    have hrest := ihRest (before ++ f.front)
    rw [List.append_assoc, ← occurrence?_eq_append hf, List.length_append] at hrest
    refine Outermost.cons hrest (isSpan_of_occurrence? hf before) (Nat.le_add_right _ _) ?_
    intro place hle hlt
    obtain ⟨htext, -, -, -, hclear⟩ := occurrence?_eq_some_iff.mp hf
    rw [Occurrence.text, List.append_assoc, List.append_assoc] at htext
    rw [htext]
    exact hclear.not_opensAt hle hlt

/-! ## Openings at every depth -/

/-- The number of openings that start in a text which goes on with another one. -/
def openingsIn : Text → Text → Nat
  | [], _ => 0
  | c :: s, behind =>
    (if (opening? (c :: s ++ behind)).isSome then 1 else 0) + openingsIn s behind

theorem openingsIn_append (s u behind : Text) :
    openingsIn (s ++ u) behind = openingsIn s (u ++ behind) + openingsIn u behind := by
  induction s with
  | nil => rw [List.nil_append, openingsIn, Nat.zero_add]
  | cons c s ih => simp only [List.cons_append, openingsIn, ih, List.append_assoc, Nat.add_assoc]

theorem IsClear.openingsIn_eq (h : IsClear s behind) : openingsIn s behind = 0 := by
  induction s with
  | nil => rfl
  | cons c s ih =>
    rw [openingsIn, h _ (List.cons_ne_nil c s) (List.suffix_refl _), ih h.tail]
    rfl

theorem openingsIn_opening (h : o.IsWritten) (behind : Text) : openingsIn o.text behind = 1 := by
  obtain ⟨opened, hvar, -⟩ := h.exists_text_eq
  have hself := opening?_append_of_isWritten h behind
  have hclear : IsClear ("ar(" ++ opened) behind := by
    refine isClear_of_forall fun b o' rest hb hsuffix hwritten hreach _ => ?_
    obtain ⟨opened', hvar', -⟩ := hwritten.exists_text_eq
    obtain ⟨front, hfront⟩ := hsuffix
    rw [hvar', List.append_assoc] at hreach
    have htext : o.text = 'v' :: front ++ b := by
      rw [hvar, List.cons_append, hfront]
      rfl
    exact hb (h.eq_nil_of_text_eq_append (List.cons_ne_nil 'v' front) htext hreach.symm)
  rw [hvar] at hself ⊢
  rw [show ("var(" ++ opened : Text) = 'v' :: ("ar(" ++ opened) from rfl] at hself ⊢
  rw [openingsIn, hself, hclear.openingsIn_eq]
  rfl

theorem IsClear.append_closing (h : IsClear s []) (behind : Text) : IsClear s (')' :: behind) := by
  refine isClear_of_forall fun b o rest hb hsuffix hwritten htext _ => ?_
  obtain ⟨opened, hvar, -, hclose, -⟩ := hwritten.exists_text_eq
  have hnot : ')' ∉ o.text := by
    rw [hvar, List.mem_append, not_or]
    exact ⟨by decide, hclose⟩
  obtain ⟨more, rfl⟩ : o.text <+: b := by
    rcases List.append_eq_append_iff.mp htext with ⟨reach, hreach, hend⟩ | ⟨more, hmore, -⟩
    · cases reach with
      | nil => exact ⟨[], by rw [hreach, List.append_nil, List.append_nil]⟩
      | cons c reach =>
        obtain ⟨rfl, -⟩ := List.cons.inj hend
        exact absurd (hreach ▸ List.mem_append_right b List.mem_cons_self) hnot
    · exact ⟨more, hmore.symm⟩
  have hopening := h _ hb hsuffix
  rw [List.append_nil, opening?_append_of_isWritten hwritten] at hopening
  cases hopening

/-- The openings in a reference, in front of it and behind it. -/
theorem openingsIn_occurrence (hf : occurrence? t = some f) (rest behind : Text) :
    openingsIn (f.front ++ rest) behind =
      1 + openingsIn f.fallback (')' :: (rest ++ behind)) + openingsIn rest behind := by
  obtain ⟨-, hwritten, -, -, hclear⟩ := occurrence?_eq_some_iff.mp hf
  obtain ⟨opened, hvar, -⟩ := hwritten.exists_text_eq
  have hbefore : IsClear f.before
      (f.opening.text ++ (f.fallback ++ ')' :: rest) ++ behind) := by
    rw [hvar, List.append_assoc] at hclear ⊢
    rw [List.append_assoc]
    exact hclear.of_var _
  have hclosing : openingsIn (')' :: rest) behind = openingsIn rest behind := Nat.zero_add _
  have htext : f.front ++ rest = f.before ++ (f.opening.text ++ (f.fallback ++ ')' :: rest)) := by
    simp [Occurrence.front]
  rw [htext, openingsIn_append, hbefore.openingsIn_eq, openingsIn_append,
    openingsIn_opening hwritten, openingsIn_append, hclosing, List.cons_append]
  omega

theorem IsClosed.openingsIn_eq (h : IsClosed t) (behind : Text) :
    openingsIn t (')' :: behind) = (allReferences t).length := by
  induction t using occurrence_induction generalizing behind with
  | none t hnone =>
    have hclear := isClear_iff.mpr (Option.isNone_iff_eq_none.mp ((isClosed_of_none hnone).mp h))
    rw [(hclear.append_closing behind).openingsIn_eq, allReferences_of_none hnone]
    rfl
  | some t f hf ihFallback ihRest =>
    obtain ⟨-, -, hdepth, -, -⟩ := occurrence?_eq_some_iff.mp hf
    have hopenings := openingsIn_occurrence hf f.rest (')' :: behind)
    rw [← occurrence?_eq_append hf, ihFallback (isClosed_of_isBalanced hdepth),
      ihRest ((isClosed_of_some hf).mp h)] at hopenings
    rw [hopenings, allReferences_of_some hf, allReferences_strip]
    simp only [List.length_cons, List.length_append]
    omega

/-- The part of a text up to the end of its last reference, in which each opening is that of a
reference. -/
theorem exists_openingsIn_eq (t : Text) : ∃ front behind, t = front ++ behind ∧
    (∀ offset, lastStop offset (referencesFrom offset t) = offset + front.length) ∧
      openingsIn front behind = (allReferences t).length := by
  induction t using occurrence_induction with
  | none t h =>
    refine ⟨[], t, rfl, fun offset => ?_, ?_⟩
    · rw [referencesFrom_of_none offset h]
      rfl
    · rw [allReferences_of_none h]
      rfl
  | some t f hf _ ihRest =>
    obtain ⟨front, behind, hrest, hstop, hcount⟩ := ihRest
    obtain ⟨-, -, hdepth, -, -⟩ := occurrence?_eq_some_iff.mp hf
    refine ⟨f.front ++ front, behind, ?_, fun offset => ?_, ?_⟩
    · rw [List.append_assoc, ← hrest]
      exact occurrence?_eq_append hf
    · rw [referencesFrom_of_some offset hf, List.length_append, ← Nat.add_assoc]
      exact hstop _
    · rw [openingsIn_occurrence hf, hcount,
        (isClosed_of_isBalanced hdepth).openingsIn_eq, allReferences_of_some hf,
        allReferences_strip]
      simp only [List.length_cons, List.length_append]
      omega

theorem countP_opensAt (s behind : Text) :
    (List.range s.length).countP (fun place => OpensAt (s ++ behind) place) =
      openingsIn s behind := by
  induction s with
  | nil => rfl
  | cons c s ih =>
    rw [List.length_cons, List.range_succ_eq_map, List.countP_cons, List.countP_map, openingsIn, ← ih,
      Nat.add_comm]
    congr 1
    · simp only [decide_eq_true_eq, opensAt_iff]
      rfl

/-- **Each opening in front of the end of the last reference is counted once**, be it that of an
outermost reference or inside a fallback. -/
theorem countP_opensAt_eq (t : Text) :
    (List.range (lastStop 0 (references t))).countP (fun place => OpensAt t place) =
      (allReferences t).length := by
  obtain ⟨front, behind, ht, hstop, hcount⟩ := exists_openingsIn_eq t
  have hlast := hstop 0
  rw [Nat.zero_add] at hlast
  rw [references, hlast, ← hcount, ← countP_opensAt, ← ht]

/-! ## Loops over the scanner -/

theorem IsSpan.length_slice_lt (h : IsSpan t ref) :
    (slice t ref.fallbackStart ref.fallbackStop).length < t.length := by
  have hclosing := congrArg List.length h.closing
  have := h.fallbackStart_le
  have := h.stop_eq
  simp only [slice, List.length_drop, List.length_take, List.length_singleton] at hclosing ⊢
  omega

theorem isSpan_of_mem_references (h : ref ∈ references t) : IsSpan t ref :=
  (outermost_referencesFrom [] t).span ref h

end Variable

open Variable

/-- The registry with the uses in a text counted, reference by reference and then inside of its
fallback, and the number of these uses. -/
def Registry.scanEach (r : Registry) (t : Text) : Registry × Nat :=
  (references t).attach.foldl (fun counted ref =>
    have := length_fallback_lt ref.2
    let inner := (counted.1.track ref.1.name ref.1.fallback).scanEach ref.1.fallback
    (inner.1, counted.2 + (1 + inner.2))) (r, 0)
termination_by t.length

/-- A text written piece by piece: what stands between references is copied, and of a reference whose
fallback the root does not hold the fallback is written in turn. -/
def shortenEach (root : Bindings) (t : Text) : Text :=
  let written := (references t).attach.foldl (fun written ref =>
    have := (isSpan_of_mem_references ref.2).length_slice_lt
    (written.1 ++ slice t written.2 ref.1.start ++
      (if root.get? (ofReference ref.1.name) = some ref.1.fallback then bareReference ref.1.name
      else slice t ref.1.start ref.1.fallbackStart ++
        shortenEach root (slice t ref.1.fallbackStart ref.1.fallbackStop) ++
        slice t ref.1.fallbackStop ref.1.stop), ref.1.stop)) (([] : Text), 0)
  written.1 ++ t.drop written.2
termination_by t.length

variable {t u : Text}

/-- What has been counted with one more reference and those in its fallback. -/
def Registry.scanStep (counted : Registry × Nat) (ref : Reference) : Registry × Nat :=
  ((counted.1.track ref.name ref.fallback).scan ref.fallback,
    counted.2 + (1 + (allReferences ref.fallback).length))

theorem Registry.foldl_scanStep (refs : List Reference) (counted : Registry × Nat) :
    refs.foldl scanStep counted =
      ((refs.flatMap fun ref => (ref.name, ref.fallback) :: allReferences ref.fallback).foldl
          (fun r use => r.track use.1 use.2) counted.1,
        counted.2 + (refs.flatMap fun ref =>
          (ref.name, ref.fallback) :: allReferences ref.fallback).length) := by
  induction refs generalizing counted with
  | nil => rfl
  | cons ref refs ih =>
    rw [List.foldl_cons, ih]
    simp only [scanStep, scan, List.flatMap_cons, List.foldl_append, List.foldl_cons, List.length_append,
      List.length_cons, Prod.mk.injEq, true_and]
    omega

/-- **Counting reference by reference** counts the references at every depth. -/
theorem Registry.scanEach_eq (r : Registry) (t : Text) :
    r.scanEach t = (r.scan t, (nestedReferences t).length) := by
  induction hlen : t.length using Nat.strong_induction_on generalizing r t with
  | _ n ih =>
    subst hlen
    have hstep : ∀ (counted : Registry × Nat) (ref : Reference) (h : ref ∈ references t),
        (((counted.1.track ref.name ref.fallback).scanEach ref.fallback).1,
          counted.2 + (1 + ((counted.1.track ref.name ref.fallback).scanEach ref.fallback).2)) =
        scanStep counted ref := by
      intro counted ref h
      rw [ih _ (length_fallback_lt h) _ _ rfl, nestedReferences_eq]
      rfl
    rw [scanEach]
    dsimp only
    rw [List.foldl_subtype hstep, List.unattach_attach, foldl_scanStep, nestedReferences_eq, scan,
      allReferences_eq_flatMap 0, Nat.zero_add]
    rfl

/-- What has been written of a text with one more of its references, and where that one ends. -/
def shortenStep (root : Bindings) (t : Text) (written : Text × Nat) (ref : Reference) : Text × Nat :=
  (written.1 ++ slice t written.2 ref.start ++
    (if root.get? (ofReference ref.name) = some ref.fallback then bareReference ref.name
    else slice t ref.start ref.fallbackStart ++
      shorten root (slice t ref.fallbackStart ref.fallbackStop) ++
      slice t ref.fallbackStop ref.stop), ref.stop)

theorem foldl_shortenStep (root : Bindings) (before u out : Text) :
    ((referencesFrom before.length u).foldl (shortenStep root (before ++ u))
        (out, before.length)).1 ++
      (before ++ u).drop ((referencesFrom before.length u).foldl (shortenStep root (before ++ u))
        (out, before.length)).2 = out ++ shorten root u := by
  induction u using occurrence_induction generalizing before out with
  | none u h => rw [referencesFrom_of_none _ h, shorten_of_none root h, List.foldl_nil, List.drop_left]
  | some u f hf _ ihRest =>
    obtain ⟨hgap, hopening, hfallback, hclosing⟩ := slice_reference before hf
    have hstep : shortenStep root (before ++ u) (out, before.length) (f.reference before.length) =
        (out ++ f.before ++ (if root.Holds f then bareReference f.opening.name
            else f.opening.text ++ shorten root f.fallback ++ ")"), (before ++ f.front).length) := by
      rw [shortenStep, hgap, hopening, hfallback, hclosing, List.length_append]
      rfl
    have ht : before ++ u = before ++ f.front ++ f.rest := by
      rw [List.append_assoc, ← occurrence?_eq_append hf]
    rw [referencesFrom_of_some _ hf, List.foldl_cons, hstep, ← List.length_append, ht, ihRest,
      shorten_of_some root hf]
    simp only [List.append_assoc]

/-- **Shortening reference by reference** is shortening. -/
theorem shortenEach_eq (root : Bindings) (t : Text) : shortenEach root t = shorten root t := by
  induction hlen : t.length using Nat.strong_induction_on generalizing t with
  | _ n ih =>
    subst hlen
    have hstep : ∀ (written : Text × Nat) (ref : Reference) (h : ref ∈ references t),
        (written.1 ++ slice t written.2 ref.start ++
          (if root.get? (ofReference ref.name) = some ref.fallback then bareReference ref.name
          else slice t ref.start ref.fallbackStart ++
            shortenEach root (slice t ref.fallbackStart ref.fallbackStop) ++
            slice t ref.fallbackStop ref.stop), ref.stop) = shortenStep root t written ref := by
      intro written ref h
      rw [shortenStep, ih _ (isSpan_of_mem_references h).length_slice_lt _ rfl]
    rw [shortenEach]
    dsimp only
    rw [List.foldl_subtype hstep, List.unattach_attach]
    exact foldl_shortenStep root [] t []

/-- **The scanner finds exactly the outermost references.** Their spans are disjoint and in order,
each one is an opening, a fallback with balanced parentheses and the closing one, no opening starts
beside them, and the first one behind them, if there is any, is never closed. Counting and
shortening go on inside the fallbacks, and what is counted is each opening in front of the end of
the last reference. -/
theorem references_outermost (t : Text) :
    Outermost t 0 (references t) ∧
      (∀ r : Registry, r.scanEach t = (r.scan t, (nestedReferences t).length)) ∧
      (nestedReferences t).length =
        (List.range (lastStop 0 (references t))).countP (fun place => OpensAt t place) ∧
      ∀ root : Bindings, shortenEach root t = shorten root t := by
  refine ⟨outermost_referencesFrom [] t, fun r => r.scanEach_eq t, ?_, fun root => shortenEach_eq root t⟩
  rw [nestedReferences_eq, countP_opensAt_eq]

end ThemedCss
