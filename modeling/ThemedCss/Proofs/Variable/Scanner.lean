import Mathlib.Data.List.Basic
import Mathlib.Data.List.TakeWhile
import ThemedCss.Variable.Reference

/-!
# What the scanner of references finds

The three steps of the scanner, told without their recursion: which texts are openings, where an
opening is found first, and where it is closed.

* `Opening.IsWritten`, **`opening?_eq_some_iff`**: the texts that are openings;
* `depthBehind?`, **`closingSplit?_eq_some_iff`**: a fallback ends where its parentheses are closed;
* `IsClear`, `occurrence?_append`: text in which no opening starts is passed over;
* `isClear_var_iff`, `isClear_concat_closing`: two kinds of such text;
* `Occurrence.front`, `occurrence?_of_rest`: the text up to the end of the first reference decides on
  this reference;
* `Occurrence.reference`, `referencesFrom_of_some`: the places of a reference;
* `occurrence_induction`: induction over the references of a text at every depth;
* `Traverses`, `Traverses.append`: functions that go through a text from reference to reference;
* `nestedReferences`, **`nestedReferences_eq`**: the references at every depth, fallback by fallback.
-/

namespace ThemedCss.Variable

variable {t rest before s : Text} {o : Opening} {f : Occurrence}

/-! ## Openings -/

/-- The text of an opening: `var(`, two hyphens, the name and a comma, with blanks in between and at
the end. -/
def Opening.IsWritten (o : Opening) : Prop :=
  o.name ≠ [] ∧ (∀ c ∈ o.name, isNameChar c = true) ∧
    ∃ gap gap' gap'' : Text, (∀ c ∈ gap, Text.isBlank c = true) ∧
      (∀ c ∈ gap', Text.isBlank c = true) ∧ (∀ c ∈ gap'', Text.isBlank c = true) ∧
      o.text = "var(" ++ (gap ++ ("--" ++ (o.name ++ (gap' ++ ("," ++ gap'')))))

theorem isBlank_of_isNameChar {c : Char} (h : isNameChar c = true) : Text.isBlank c = false := by
  -- from the hyphen to the small letters nothing is blank
  have hrange : 45 ≤ c.toNat ∧ c.toNat ≤ 122 := by
    simp only [isNameChar, Bool.or_eq_true, Bool.and_eq_true, decide_eq_true_eq, Char.le_def,
      UInt32.le_iff_toNat_le] at h
    rcases h with (((h | h) | h) | rfl) | rfl
    · exact ⟨Nat.le_trans (by decide) h.1, Nat.le_trans h.2 (by decide)⟩
    · exact ⟨Nat.le_trans (by decide) h.1, Nat.le_trans h.2 (by decide)⟩
    · exact ⟨Nat.le_trans (by decide) h.1, Nat.le_trans h.2 (by decide)⟩
    · decide
    · decide
  unfold Text.isBlank
  simp only [Bool.or_eq_false_iff, Bool.and_eq_false_iff, decide_eq_false_iff_not, beq_eq_false_iff_ne]
  omega

theorem takeWhile_append_eq {p : Char → Bool} (hs : ∀ c ∈ s, p c = true)
    (ht : ∀ c ∈ t.head?, p c = false) : (s ++ t).takeWhile p = s := by
  rw [List.takeWhile_append_of_pos hs]
  cases t with
  | nil => simp
  | cons c t => simp [ht c rfl]

theorem dropWhile_append_eq {p : Char → Bool} (hs : ∀ c ∈ s, p c = true)
    (ht : ∀ c ∈ t.head?, p c = false) : (s ++ t).dropWhile p = t := by
  rw [List.dropWhile_append_of_pos hs]
  cases t with
  | nil => simp
  | cons c t => simp [ht c rfl]

theorem isPrefixOf?_append (s t : Text) : s.isPrefixOf? (s ++ t) = some t :=
  List.isPrefixOf?_eq_some_iff_append_eq.mpr rfl

theorem isNameChar_head?_append (hs : ∀ c ∈ s, Text.isBlank c = true)
    (ht : ∀ c ∈ t.head?, isNameChar c = false) : ∀ c ∈ (s ++ t).head?, isNameChar c = false := by
  intro c hc
  cases s with
  | nil => exact ht c hc
  | cons d s =>
    obtain rfl : d = c := Option.some.inj hc
    by_contra hd
    have hblank := isBlank_of_isNameChar ((Bool.not_eq_false _).mp hd)
    rw [hs d List.mem_cons_self] at hblank
    cases hblank

/-- **The texts that are openings, with a rest that does not start with a blank.** -/
theorem opening?_eq_some_iff : opening? t = some (o, rest) ↔
    o.IsWritten ∧ t = o.text ++ rest ∧ ∀ c ∈ rest.head?, Text.isBlank c = false := by
  constructor
  · intro h
    have ht := opening?_eq_append h
    simp only [opening?, Option.bind_eq_bind, Option.bind_eq_some_iff, Option.pure_def,
      Option.some.injEq, Prod.mk.injEq, Option.guard_eq_some_iff] at h
    obtain ⟨inner, -, named, -, name, ⟨rfl, hname⟩, behind, -, rfl, rfl⟩ := h
    refine ⟨⟨of_decide_eq_true hname, fun c hc => List.mem_takeWhile_imp hc,
      inner.takeWhile Text.isBlank, (named.dropWhile isNameChar).takeWhile Text.isBlank,
      behind.takeWhile Text.isBlank, fun c hc => List.mem_takeWhile_imp hc,
      fun c hc => List.mem_takeWhile_imp hc, fun c hc => List.mem_takeWhile_imp hc, ?_⟩, ht, ?_⟩
    · simp only [List.append_assoc]
    · intro c hc
      have hhead := List.head?_dropWhile_not Text.isBlank behind
      simp_all
  · rintro ⟨⟨hne, hname, gap, gap', gap'', hgap, hgap', hgap'', htext⟩, rfl, hrest⟩
    have hhyphen : ∀ c ∈ ("--" ++ (o.name ++ (gap' ++ ("," ++ (gap'' ++ rest))))).head?,
        Text.isBlank c = false := by
      intro c hc
      obtain rfl : '-' = c := Option.some.inj hc
      decide
    have hcomma : ∀ c ∈ ("," ++ (gap'' ++ rest) : Text).head?, Text.isBlank c = false := by
      intro c hc
      obtain rfl : ',' = c := Option.some.inj hc
      decide
    have hbetween : ∀ c ∈ (gap' ++ ("," ++ (gap'' ++ rest)) : Text).head?, isNameChar c = false := by
      refine isNameChar_head?_append hgap' fun c hc => ?_
      obtain rfl : ',' = c := Option.some.inj hc
      decide
    have htake := takeWhile_append_eq hname hbetween
    have hdrop := dropWhile_append_eq hname hbetween
    have hassoc : o.text ++ rest =
        "var(" ++ (gap ++ ("--" ++ (o.name ++ (gap' ++ ("," ++ (gap'' ++ rest)))))) := by
      rw [htext]
      simp only [List.append_assoc]
    rw [hassoc, opening?]
    simp only [isPrefixOf?_append, dropWhile_append_eq hgap hhyphen, takeWhile_append_eq hgap hhyphen, htake,
      hdrop, dropWhile_append_eq hgap' hcomma, takeWhile_append_eq hgap' hcomma,
      dropWhile_append_eq hgap'' hrest, takeWhile_append_eq hgap'' hrest, Option.bind_eq_bind,
      Option.bind_some, Option.guard]
    rw [if_pos (decide_eq_true hne), Option.bind_some]
    have ho : o = ⟨"var(" ++ gap ++ "--" ++ o.name ++ gap' ++ "," ++ gap'', o.name⟩ := by
      cases o
      simpa only [Opening.mk.injEq, and_true, List.append_assoc] using htext
    rw [← ho]
    rfl

theorem eq_nil_of_var_eq_append {behind reach z : Text} (hbefore : before ≠ []) (hopen : '(' ∉ behind)
    (hlast : ∀ c ∈ ("var(" ++ behind).getLast?, c ∉ ("var(" : Text))
    (htext : "var(" ++ behind = before ++ reach) (hreach : "var(" ++ z = reach ++ rest) :
    reach = [] := by
  by_contra hne
  rcases List.append_eq_append_iff.mp hreach with ⟨more, rfl, -⟩ | ⟨more, hpart, -⟩
  · -- the parenthesis of the other `var(` would stand behind the first one
    have hdrop : behind = (before ++ "var" ++ '(' :: more).drop 4 := by
      have hsame : before ++ "var" ++ '(' :: more = "var(" ++ behind := by
        rw [htext, List.append_assoc]
        rfl
      rw [hsame]
      rfl
    rw [List.drop_append_of_le_length] at hdrop
    · exact hopen (hdrop ▸ List.mem_append_right _ List.mem_cons_self)
    · have := List.length_pos_iff.mpr hbefore
      rw [List.length_append]
      change 4 ≤ before.length + 3
      omega
  · obtain ⟨c, hc⟩ := Option.isSome_iff_exists.mp (List.getLast?_isSome.mpr hne)
    refine hlast c ?_ ?_
    · rw [htext, List.getLast?_append_of_ne_nil before hne]
      exact hc
    · rw [hpart]
      exact List.mem_append_left _ (List.mem_of_getLast? hc)

namespace Opening.IsWritten

theorem exists_text_eq (h : o.IsWritten) : ∃ behind : Text, o.text = "var(" ++ behind ∧
    '(' ∉ behind ∧ ')' ∉ behind ∧ ',' ∈ behind ∧
    ∀ c ∈ o.text.getLast?, c = ',' ∨ Text.isBlank c = true := by
  obtain ⟨-, hname, gap, gap', gap'', hgap, hgap', hgap'', htext⟩ := h
  have hout : ∀ d : Char, isNameChar d = false → Text.isBlank d = false → d ≠ ',' → d ≠ '-' →
      d ∉ (gap ++ ("--" ++ (o.name ++ (gap' ++ ("," ++ gap''))) : Text)) := by
    intro d hn hb hc hh hd
    simp only [List.mem_append] at hd
    rcases hd with hd | hd | hd | hd | hd | hd
    · exact absurd (hgap d hd) (by rw [hb]; exact Bool.false_ne_true)
    · exact hh (by simpa using hd)
    · exact absurd (hname d hd) (by rw [hn]; exact Bool.false_ne_true)
    · exact absurd (hgap' d hd) (by rw [hb]; exact Bool.false_ne_true)
    · exact hc (by simpa using hd)
    · exact absurd (hgap'' d hd) (by rw [hb]; exact Bool.false_ne_true)
  refine ⟨_, htext, hout '(' (by decide) (by decide) (by decide) (by decide),
    hout ')' (by decide) (by decide) (by decide) (by decide), by simp, ?_⟩
  intro c hc
  have hlast : c ∈ ("," ++ gap'' : Text).getLast? := by
    have hends : o.text =
        "var(" ++ (gap ++ ("--" ++ (o.name ++ gap'))) ++ ("," ++ gap'') := by
      rw [htext]
      simp only [List.append_assoc]
    have hne : ("," ++ gap'' : Text) ≠ [] := List.cons_ne_nil ',' gap''
    rwa [hends, List.getLast?_append_of_ne_nil _ hne] at hc
  rcases List.mem_append.mp (List.mem_of_getLast? hlast) with hc | hc
  · exact .inl (by simpa using hc)
  · exact .inr (hgap'' c hc)

theorem eq_nil_of_text_eq_append (h : o.IsWritten) {reach z : Text} (hbefore : before ≠ [])
    (htext : o.text = before ++ reach) (hreach : "var(" ++ z = reach ++ rest) : reach = [] := by
  obtain ⟨behind, hvar, hopen, -, -, hlast⟩ := h.exists_text_eq
  rw [hvar] at htext hlast
  refine eq_nil_of_var_eq_append hbefore hopen (fun c hc hmem => ?_) htext hreach
  -- no code point of `var(` ends an opening
  have hnone : ∀ c ∈ ("var(" : Text), ¬ (c = ',' ∨ Text.isBlank c = true) := by
    intro c hc
    obtain rfl | rfl | rfl | rfl : c = 'v' ∨ c = 'a' ∨ c = 'r' ∨ c = '(' := by simpa using hc
    all_goals decide
  exact hnone c hmem (hlast c hc)

end Opening.IsWritten

/-! ## Closing parentheses -/

/-- The depth of parentheses behind a code point. There is none when it closes what is not open. -/
def depthAfter? (depth : Nat) (c : Char) : Option Nat :=
  if c = '(' then some (depth + 1)
  else if c = ')' then if depth = 0 then none else some (depth - 1)
  else some depth

/-- The depth of parentheses behind a text, from the one in front of it. -/
def depthBehind? (depth : Nat) (t : Text) : Option Nat := t.foldlM depthAfter? depth

theorem depthBehind?_cons (depth : Nat) (c : Char) (t : Text) :
    depthBehind? depth (c :: t) = (depthAfter? depth c).bind fun d => depthBehind? d t :=
  List.foldlM_cons

theorem depthBehind?_append (depth : Nat) (s t : Text) :
    depthBehind? depth (s ++ t) = (depthBehind? depth s).bind fun d => depthBehind? d t :=
  List.foldlM_append

theorem depthBehind?_cons_of_ne {c : Char} (hopen : c ≠ '(') (hclose : c ≠ ')') (depth : Nat)
    (t : Text) : depthBehind? depth (c :: t) = depthBehind? depth t := by
  rw [depthBehind?_cons, depthAfter?, if_neg hopen, if_neg hclose, Option.bind_some]

theorem depthBehind?_of_not_mem (depth : Nat) (hopen : '(' ∉ t) (hclose : ')' ∉ t) :
    depthBehind? depth t = some depth := by
  induction t with
  | nil => rfl
  | cons c t ih =>
    rw [List.mem_cons, not_or] at hopen hclose
    rw [depthBehind?_cons_of_ne (Ne.symm hopen.1) (Ne.symm hclose.1)]
    exact ih hopen.2 hclose.2

theorem Opening.IsWritten.depthBehind?_text (h : o.IsWritten) (depth : Nat) :
    depthBehind? depth o.text = some (depth + 1) := by
  obtain ⟨behind, hvar, hopen, hclose, -, -⟩ := h.exists_text_eq
  rw [hvar, depthBehind?_append]
  exact depthBehind?_of_not_mem (depth + 1) hopen hclose

theorem depthBehind?_append_append {depth : Nat} (h : ∀ d, depthBehind? d s = some d) (before t : Text) :
    depthBehind? depth (before ++ s ++ t) =
      (depthBehind? depth before).bind fun d => depthBehind? d t := by
  simp only [depthBehind?_append, Option.bind_assoc, h, Option.bind_some]

theorem depthAfter?_add {depth d : Nat} {c : Char} (h : depthAfter? depth c = some d) (k : Nat) :
    depthAfter? (depth + k) c = some (d + k) := by
  unfold depthAfter? at h ⊢
  grind

theorem depthBehind?_add {depth d : Nat} (h : depthBehind? depth t = some d) (k : Nat) :
    depthBehind? (depth + k) t = some (d + k) := by
  induction t generalizing depth with
  | nil =>
    obtain rfl : depth = d := Option.some.inj h
    rfl
  | cons c t ih =>
    rw [depthBehind?_cons] at h ⊢
    obtain ⟨e, hc, ht⟩ := Option.bind_eq_some_iff.mp h
    rw [depthAfter?_add hc, Option.bind_some]
    exact ih ht

theorem closingSplit?_cons (depth : Nat) (c : Char) (t : Text) :
    closingSplit? depth (c :: t) =
      if c = ')' ∧ depth = 0 then some ([], t)
      else ((depthAfter? depth c).bind fun d => closingSplit? d t).map fun (inner, rest) =>
        (c :: inner, rest) := by
  unfold depthAfter?
  cases depth <;> simp only [closingSplit?] <;> grind

/-- **A fallback ends at the first closing parenthesis behind which more are closed than opened.** -/
theorem closingSplit?_eq_some_iff {depth : Nat} {inner : Text} :
    closingSplit? depth t = some (inner, rest) ↔
      t = inner ++ ')' :: rest ∧ depthBehind? depth inner = some 0 := by
  refine ⟨fun h => ⟨closingSplit?_eq_append h, ?_⟩, ?_⟩
  · induction t generalizing depth inner with
    | nil => cases h
    | cons c t ih =>
      rw [closingSplit?_cons] at h
      by_cases hc : c = ')' ∧ depth = 0
      · rw [if_pos hc] at h
        obtain ⟨rfl, rfl⟩ := Prod.mk.inj (Option.some.inj h)
        rw [hc.2]
        rfl
      · rw [if_neg hc] at h
        obtain ⟨⟨a, r⟩, hsplit, he⟩ := Option.map_eq_some_iff.mp h
        obtain ⟨rfl, rfl⟩ := Prod.mk.inj he
        obtain ⟨d, hd, hsplit⟩ := Option.bind_eq_some_iff.mp hsplit
        rw [depthBehind?_cons, hd]
        exact ih hsplit
  · rintro ⟨rfl, h⟩
    induction inner generalizing depth with
    | nil =>
      obtain rfl : depth = 0 := Option.some.inj h
      rfl
    | cons c inner ih =>
      rw [depthBehind?_cons] at h
      obtain ⟨d, hd, h⟩ := Option.bind_eq_some_iff.mp h
      have hc : ¬ (c = ')' ∧ depth = 0) := by
        rintro ⟨rfl, rfl⟩
        cases hd
      rw [List.cons_append, closingSplit?_cons, if_neg hc, hd, Option.bind_some, ih h]
      rfl

/-! ## Text in which no opening starts -/

/-- No opening starts in a text before another one. -/
def IsClear (before t : Text) : Prop := ∀ b, b ≠ [] → b <:+ before → opening? (b ++ t) = none

theorem IsClear.tail {c : Char} (h : IsClear (c :: before) t) : IsClear before t :=
  fun b hb hsuffix => h b hb (hsuffix.trans (List.suffix_cons c before))

/-- Nothing is opened in a text at whose places no opening is written. -/
theorem isClear_of_forall (h : ∀ b (o : Opening) rest, b ≠ [] → b <:+ before → o.IsWritten →
    b ++ t = o.text ++ rest → (∀ c ∈ rest.head?, Text.isBlank c = false) → False) :
    IsClear before t := by
  intro b hb hsuffix
  refine Option.eq_none_iff_forall_ne_some.mpr fun ⟨o, rest⟩ ho => ?_
  obtain ⟨hwritten, htext, hhead⟩ := opening?_eq_some_iff.mp ho
  exact h b o rest hb hsuffix hwritten htext hhead

theorem firstOpening?_append (h : IsClear before t) :
    firstOpening? (before ++ t) =
      (firstOpening? t).map fun (b, o, behind) => (before ++ b, o, behind) := by
  induction before with
  | nil => simp
  | cons c before ih =>
    have hc : opening? (c :: (before ++ t)) = none :=
      h (c :: before) (List.cons_ne_nil c before) (List.suffix_refl _)
    rw [List.cons_append, firstOpening?, hc, ih h.tail, Option.map_map]
    rfl

theorem firstOpening?_eq_some (h : firstOpening? t = some (before, o, rest)) :
    IsClear before (o.text ++ rest) ∧ opening? (o.text ++ rest) = some (o, rest) := by
  induction t generalizing before with
  | nil => cases h
  | cons c t ih =>
    rw [firstOpening?] at h
    cases ho : opening? (c :: t) with
    | some found =>
      rw [ho] at h
      cases h
      refine ⟨fun b hb hsuffix => absurd (List.suffix_nil.mp hsuffix) hb, ?_⟩
      rwa [← opening?_eq_append ho]
    | none =>
      rw [ho] at h
      obtain ⟨⟨b, o', rest'⟩, hfirst, he⟩ := Option.map_eq_some_iff.mp h
      cases he
      obtain ⟨hclear, hopening⟩ := ih hfirst
      refine ⟨fun b' hb' hsuffix => ?_, hopening⟩
      rcases List.suffix_cons_iff.mp hsuffix with rfl | hsuffix
      · rw [List.cons_append, ← List.append_assoc, ← firstOpening?_eq_append hfirst]
        exact ho
      · exact hclear b' hb' hsuffix

theorem firstOpening?_of_opening? (h : opening? t = some (o, rest)) :
    firstOpening? t = some ([], o, rest) := by
  cases t with
  | nil => cases h
  | cons c t => rw [firstOpening?, h]

theorem opening?_append_of_var (h : opening? before = some (o, rest)) (y : Text) :
    opening? (before ++ ("var(" ++ y)) = some (o, rest ++ ("var(" ++ y)) := by
  obtain ⟨hwritten, rfl, hhead⟩ := opening?_eq_some_iff.mp h
  refine opening?_eq_some_iff.mpr ⟨hwritten, List.append_assoc _ _ _, fun c hc => ?_⟩
  cases rest with
  | nil =>
    obtain rfl : 'v' = c := Option.some.inj hc
    decide
  | cons d rest => exact hhead c hc

/-- No opening that starts in a text reaches into a `var(` behind it. -/
theorem opening?_append_var_eq_none_iff (hbefore : before ≠ []) {y : Text} :
    opening? (before ++ ("var(" ++ y)) = none ↔ opening? before = none := by
  simp only [Option.eq_none_iff_forall_ne_some]
  constructor
  · rintro h ⟨o, rest⟩ ho
    exact h _ (opening?_append_of_var ho y)
  · rintro h ⟨o, rest⟩ ho
    obtain ⟨hwritten, htext, hhead⟩ := opening?_eq_some_iff.mp ho
    obtain ⟨more, rfl, rfl⟩ : ∃ more, before = o.text ++ more ∧ rest = more ++ ("var(" ++ y) := by
      rcases List.append_eq_append_iff.mp htext with ⟨reach, hreach, hvar⟩ | ⟨more, hmore, hvar⟩
      · obtain rfl := hwritten.eq_nil_of_text_eq_append hbefore hreach hvar
        exact ⟨[], by simpa using hreach.symm, by simpa using hvar.symm⟩
      · exact ⟨more, hmore, hvar⟩
    refine h (o, more) (opening?_eq_some_iff.mpr ⟨hwritten, rfl, fun c hc => hhead c ?_⟩)
    rw [List.head?_append, hc]
    rfl

theorem isClear_var_iff {y : Text} : IsClear before ("var(" ++ y) ↔ IsClear before [] := by
  refine forall₃_congr fun b hb _ => ?_
  rw [opening?_append_var_eq_none_iff hb, List.append_nil]

theorem IsClear.of_var {y : Text} (h : IsClear before ("var(" ++ y)) (z : Text) :
    IsClear before ("var(" ++ z) :=
  isClear_var_iff.mpr (isClear_var_iff.mp h)

theorem isClear_concat_closing (h : ',' ∉ s) (t : Text) : IsClear (s ++ [')']) t := by
  refine isClear_of_forall fun b o rest hb hsuffix hwritten htext _ => ?_
  -- an opening holds a comma and no closing parenthesis
  obtain ⟨behind, hvar, -, hclose, hcomma, -⟩ := hwritten.exists_text_eq
  have hcomma : ',' ∈ o.text := hvar ▸ List.mem_append_right _ hcomma
  have hclose : ')' ∉ o.text := by
    rw [hvar, List.mem_append]
    rintro (hc | hc)
    · exact absurd hc (by decide)
    · exact hclose hc
  rcases List.suffix_concat_iff.mp hsuffix with rfl | ⟨b', rfl, hs⟩
  · exact hb rfl
  have hb' : ',' ∉ b' := fun hc => h (hs.subset hc)
  rw [List.append_assoc, List.singleton_append] at htext
  rcases List.append_eq_append_iff.mp htext with ⟨reach, hreach, hend⟩ | ⟨more, rfl, -⟩
  · cases reach with
    | nil =>
      rw [List.append_nil] at hreach
      exact hb' (hreach ▸ hcomma)
    | cons c reach =>
      obtain ⟨rfl, -⟩ := List.cons.inj hend
      exact hclose (hreach ▸ List.mem_append_right b' List.mem_cons_self)
  · exact hb' (List.mem_append_left more hcomma)

/-! ## Occurrences -/

theorem occurrence?_append (h : IsClear before t) :
    occurrence? (before ++ t) =
      (occurrence? t).map fun f => { f with before := before ++ f.before } := by
  unfold occurrence?
  rw [firstOpening?_append h]
  cases firstOpening? t with
  | none => rfl
  | some found =>
    obtain ⟨b, o, behind⟩ := found
    simp only [Option.map_some, Option.map_map]
    rfl

/-- **What the first reference of a text is.** -/
theorem occurrence?_eq_some_iff : occurrence? t = some f ↔
    t = f.text ∧ f.opening.IsWritten ∧ depthBehind? 0 f.fallback = some 0 ∧
      (∀ c ∈ (f.fallback ++ ')' :: f.rest).head?, Text.isBlank c = false) ∧
      IsClear f.before (f.opening.text ++ (f.fallback ++ ')' :: f.rest)) := by
  constructor
  · intro h
    refine ⟨(occurrence?_text h).symm, ?_⟩
    unfold occurrence? at h
    cases hfirst : firstOpening? t with
    | none =>
      rw [hfirst] at h
      cases h
    | some found =>
      obtain ⟨before, o, behind⟩ := found
      rw [hfirst] at h
      obtain ⟨⟨fallback, rest⟩, hsplit, rfl⟩ := Option.map_eq_some_iff.mp h
      obtain ⟨rfl, hdepth⟩ := closingSplit?_eq_some_iff.mp hsplit
      obtain ⟨hclear, hopening⟩ := firstOpening?_eq_some hfirst
      obtain ⟨hwritten, -, hhead⟩ := opening?_eq_some_iff.mp hopening
      exact ⟨hwritten, hdepth, hhead, hclear⟩
  · rintro ⟨rfl, hwritten, hdepth, hhead, hclear⟩
    obtain ⟨before, o, fallback, rest⟩ := f
    have hopening : opening? (o.text ++ (fallback ++ ')' :: rest)) =
        some (o, fallback ++ ')' :: rest) :=
      opening?_eq_some_iff.mpr ⟨hwritten, rfl, hhead⟩
    have hsplit : closingSplit? 0 (fallback ++ ')' :: rest) = some (fallback, rest) :=
      closingSplit?_eq_some_iff.mpr ⟨rfl, hdepth⟩
    rw [Occurrence.text, List.append_assoc, List.append_assoc, occurrence?,
      firstOpening?_append hclear, firstOpening?_of_opening? hopening]
    simp only [Option.map_some, hsplit, List.append_nil]

/-- The text up to the end of the reference. -/
def Occurrence.front (f : Occurrence) : Text := f.before ++ f.opening.text ++ f.fallback ++ [')']

theorem Occurrence.length_front (f : Occurrence) : f.front.length =
    f.before.length + f.opening.text.length + f.fallback.length + 1 := by
  simp only [front, List.length_append, List.length_singleton]

theorem Occurrence.text_of_rest (f : Occurrence) (rest : Text) :
    Occurrence.text { f with rest } = f.front ++ rest := by
  simp [text, front]

theorem occurrence?_eq_append (h : occurrence? t = some f) : t = f.front ++ f.rest :=
  (occurrence?_text h).symm.trans (f.text_of_rest f.rest)

theorem occurrence?_of_rest (h : occurrence? t = some f) (rest : Text) :
    occurrence? (f.front ++ rest) = some { f with rest } := by
  obtain ⟨-, hwritten, hdepth, hhead, hclear⟩ := occurrence?_eq_some_iff.mp h
  refine occurrence?_eq_some_iff.mpr
    ⟨(f.text_of_rest rest).symm, hwritten, hdepth, fun c hc => hhead c ?_, ?_⟩
  · rw [List.head?_append] at hc ⊢
    exact hc
  · obtain ⟨behind, hvar, -⟩ := hwritten.exists_text_eq
    rw [hvar, List.append_assoc] at hclear ⊢
    exact hclear.of_var _

theorem occurrence?_behind (h : occurrence? t = some f) (s : Text) :
    occurrence? (t ++ s) = some { f with rest := f.rest ++ s } := by
  have hbehind := occurrence?_of_rest h (f.rest ++ s)
  rwa [← List.append_assoc, ← occurrence?_eq_append h] at hbehind

/-- A text that goes on to the end of the first reference of a longer one has this reference as
well. -/
theorem exists_rest_of_length_le (h : occurrence? (t ++ s) = some f)
    (hle : f.front.length ≤ t.length) :
    ∃ rest, t = f.front ++ rest ∧ f.rest = rest ++ s ∧ occurrence? t = some { f with rest } := by
  have htext := occurrence?_eq_append h
  obtain ⟨rest, rfl⟩ : f.front <+: t :=
    List.prefix_of_prefix_length_le ⟨f.rest, htext.symm⟩ ⟨s, rfl⟩ hle
  rw [List.append_assoc] at htext
  exact ⟨rest, rfl, (List.append_cancel_left htext).symm, occurrence?_of_rest h rest⟩

/-- Induction over the references of a text: over the fallback of the first one, and over what stands
behind it. -/
theorem occurrence_induction {P : Text → Prop} (none : ∀ t, occurrence? t = none → P t)
    (some : ∀ t f, occurrence? t = some f → P f.fallback → P f.rest → P t) (t : Text) : P t := by
  induction hlen : t.length using Nat.strong_induction_on generalizing t with
  | _ n ih =>
    subst hlen
    cases hf : occurrence? t with
    | none => exact none t hf
    | some f =>
      exact some t f hf (ih _ (occurrence?_fallback_lt hf) _ rfl) (ih _ (occurrence?_rest_lt hf) _ rfl)

/-! ## From reference to reference -/

/-- A function that goes through a text from reference to reference. It makes something of the text
between them and something of each reference, and puts all of it together in the order of the text. -/
structure Traverses {α : Type} (F between : Text → List α) (each : Opening → Text → List α) :
    Prop where
  of_none : ∀ {t}, occurrence? t = none → F t = between t
  of_some : ∀ {t f}, occurrence? t = some f →
    F t = between f.before ++ each f.opening f.fallback ++ F f.rest
  between_append : ∀ s t, between (s ++ t) = between s ++ between t

namespace Traverses

variable {α : Type} {F between : Text → List α} {each : Opening → Text → List α}

theorem nil (h : Traverses F between each) : F [] = [] :=
  (h.of_none rfl).trans (List.self_eq_append_right.mp (h.between_append [] []))

theorem append (h : Traverses F between each) (hclear : IsClear s t) :
    F (s ++ t) = between s ++ F t := by
  have happend := occurrence?_append hclear
  cases hf : occurrence? t with
  | none =>
    rw [hf] at happend
    rw [h.of_none hf, h.of_none happend, h.between_append]
  | some f =>
    rw [hf] at happend
    rw [h.of_some hf, h.of_some happend, h.between_append]
    simp only [List.append_assoc]

end Traverses

/-! ## References at every depth -/

/-- The reference and its places, behind a text of some length. -/
def Occurrence.reference (f : Occurrence) (offset : Nat) : Reference where
  name := f.opening.name
  fallback := Text.strip f.fallback
  start := offset + f.before.length
  stop := offset + f.front.length
  fallbackStart := offset + f.before.length + f.opening.text.length
  fallbackStop := offset + f.before.length + f.opening.text.length + f.fallback.length

theorem referencesFrom_of_none (offset : Nat) (h : occurrence? t = none) :
    referencesFrom offset t = [] := by
  rw [referencesFrom]
  split
  · rfl
  · simp_all

theorem referencesFrom_of_some (offset : Nat) (h : occurrence? t = some f) :
    referencesFrom offset t =
      f.reference offset :: referencesFrom (offset + f.front.length) f.rest := by
  rw [referencesFrom]
  split
  · simp_all
  · rename_i g hg
    obtain rfl : f = g := Option.some.inj (h.symm.trans hg)
    simp only [Occurrence.reference, f.length_front, Nat.add_assoc]

theorem length_fallback_lt {ref : Reference} {offset : Nat} (h : ref ∈ referencesFrom offset t) :
    ref.fallback.length < t.length := by
  induction t using occurrence_induction generalizing offset with
  | none t hn =>
    rw [referencesFrom_of_none offset hn] at h
    cases h
  | some t f hf _ ihRest =>
    rw [referencesFrom_of_some offset hf] at h
    rcases List.mem_cons.mp h with rfl | h
    · exact Nat.lt_of_le_of_lt (strip_length_le f.fallback) (occurrence?_fallback_lt hf)
    · exact Nat.lt_trans (ihRest h) (occurrence?_rest_lt hf)

/-- The names and fallbacks of the outermost references of a text, each followed by those of its
fallback. -/
def nestedReferences (t : Text) : List (Text × Text) :=
  (references t).attach.flatMap fun ⟨ref, h⟩ =>
    have := length_fallback_lt h
    (ref.name, ref.fallback) :: nestedReferences ref.fallback
termination_by t.length

theorem allReferences_of_none (h : occurrence? t = none) : allReferences t = [] := by
  rw [allReferences]
  split
  · rfl
  · simp_all

theorem allReferences_of_some (h : occurrence? t = some f) :
    allReferences t = (f.opening.name, Text.strip f.fallback) ::
      allReferences (Text.strip f.fallback) ++ allReferences f.rest := by
  rw [allReferences]
  split
  · simp_all
  · rename_i g hg
    obtain rfl : f = g := Option.some.inj (h.symm.trans hg)
    rfl

theorem traverses_allReferences : Traverses allReferences (fun _ => []) fun o d =>
    (o.name, Text.strip d) :: allReferences (Text.strip d) :=
  ⟨allReferences_of_none, allReferences_of_some, fun _ _ => rfl⟩

theorem allReferences_eq_flatMap (offset : Nat) (t : Text) :
    allReferences t = (referencesFrom offset t).flatMap fun ref =>
      (ref.name, ref.fallback) :: allReferences ref.fallback := by
  induction t using occurrence_induction generalizing offset with
  | none t h => rw [allReferences_of_none h, referencesFrom_of_none offset h, List.flatMap_nil]
  | some t f h _ ihRest =>
    rw [allReferences_of_some h, referencesFrom_of_some offset h, List.flatMap_cons,
      ihRest (offset + f.front.length)]
    rfl

/-- **The references of a text at every depth are those that the scanner yields for the text, and
for the fallback of each of them in turn.** -/
theorem nestedReferences_eq (t : Text) : nestedReferences t = allReferences t := by
  induction hlen : t.length using Nat.strong_induction_on generalizing t with
  | _ n ih =>
    subst hlen
    rw [nestedReferences, allReferences_eq_flatMap 0]
    have hnested : ∀ ref ∈ references t, nestedReferences ref.fallback =
        allReferences ref.fallback := fun ref h => ih _ (length_fallback_lt h) _ rfl
    simp only [List.flatMap_subtype, List.unattach_attach]
    refine List.flatMap_congr fun ref h => ?_
    rw [hnested ref h]

end ThemedCss.Variable
