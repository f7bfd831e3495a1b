import Mathlib.Data.List.Basic
import ThemedCss.Document.Json
import ThemedCss.Number.Written
import ThemedCss.Proofs.Number.Shortest

/-!
# Numbers in JSON

What is written of a number is read as that number, whatever a list or a mapping goes on with behind it.

* `Json.EndsWord`: what can stand behind a number;
* `Json.magnitude?_eq`: a number by its digits, its fraction and its exponent;
* **`Json.scalar?_write`**: a finite double reads back from its shortest decimal;
* **`Json.scalar?_ofInt`**: an integer reads back.
-/

namespace ThemedCss.Json

/-- Whether a word ends in front of a text: at the end, at a comma or at a closing bracket. -/
def EndsWord (rest : Text) : Prop := ∀ c ∈ rest.head?, c = ',' ∨ c = ']' ∨ c = '\x7d'

/-- Whether a text starts with no digit. -/
def NoDigit (t : Text) : Prop := ∀ c ∈ t.head?, Digits.isDecimal c = false

/-- Some digits without a leading zero, or a zero alone. -/
structure IsWhole (ds : Text) : Prop where
  ne_nil : ds ≠ []
  decimal : ∀ c ∈ ds, Digits.isDecimal c = true
  leading : ds = ['0'] ∨ ds.head? ≠ some '0'

variable {ds fs es t rest : Text}

theorem noDigit_cons {c : Char} (h : Digits.isDecimal c = false) : NoDigit (c :: t) := by
  intro d hd
  obtain rfl := Option.some.inj hd
  exact h

namespace EndsWord

theorem nil : EndsWord [] := fun _ h => nomatch h

theorem noDigit (h : EndsWord rest) : NoDigit rest := by
  intro c hc
  obtain rfl | rfl | rfl := h c hc
  · rfl
  · rfl
  · rfl

theorem head?_ne {c : Char} (h : EndsWord rest) (hc : c ≠ ',' ∧ c ≠ ']' ∧ c ≠ '\x7d') :
    rest.head? ≠ some c := by
  intro hhead
  obtain rfl | rfl | rfl := h c hhead
  · exact hc.1 rfl
  · exact hc.2.1 rfl
  · exact hc.2.2 rfl

end EndsWord

/-! ## Words -/

theorem scalar?_eq_none {c : Char} (hc : c ∈ ['"', '[', '\x7b', ',', ']', '\x7d']) (t : Text) :
    scalar? (c :: t) = none := by
  simp only [List.mem_cons, List.not_mem_nil, or_false] at hc
  rcases hc with rfl | rfl | rfl | rfl | rfl | rfl
  all_goals rfl

theorem exists_cons_of_scalar? {result : Scalar × Text} (h : scalar? t = some result) :
    ∃ c u, t = c :: u ∧ c ∉ ['"', '[', '\x7b', ',', ']', '\x7d'] := by
  match t with
  | [] => cases h
  | c :: u =>
    refine ⟨c, u, rfl, fun hc => ?_⟩
    rw [scalar?_eq_none hc] at h
    cases h

theorem scalar?_null (rest : Text) : scalar? ("null" ++ rest) = some (.null, rest) := rfl

theorem scalar?_bool (b : Bool) (rest : Text) :
    scalar? ((if b then "true" else "false" : Text) ++ rest) = some (.bool b, rest) := by
  cases b with
  | true => rfl
  | false => rfl

/-! ## The parts of a number -/

theorem digits_append (hds : ∀ c ∈ ds, Digits.isDecimal c = true) (ht : NoDigit t) :
    digits (ds ++ t) = (ds, t) := by
  have hnone : t.takeWhile Digits.isDecimal = [] ∧ t.dropWhile Digits.isDecimal = t := by
    cases t with
    | nil => exact ⟨rfl, rfl⟩
    | cons c t =>
      have hc : ¬ Digits.isDecimal c = true := Bool.eq_false_iff.mp (ht c rfl)
      exact ⟨List.takeWhile_cons_of_neg hc, List.dropWhile_cons_of_neg hc⟩
  rw [digits, List.takeWhile_append_of_pos hds, List.dropWhile_append_of_pos hds, hnone.1, hnone.2,
    List.append_nil]

theorem fraction?_of_head (h : t.head? ≠ some '.') : fraction? t = none := by
  match t with
  | [] => rfl
  | c :: t =>
    unfold fraction?
    split
    · rename_i heq
      exact absurd (congrArg List.head? heq) h
    · rfl

theorem fraction?_point (hfs : ∀ c ∈ fs, Digits.isDecimal c = true) (hne : fs ≠ []) (ht : NoDigit t) :
    fraction? ('.' :: (fs ++ t)) = some (fs, t) := by
  obtain ⟨c, fs, rfl⟩ := List.exists_cons_of_ne_nil hne
  rw [fraction?, digits_append hfs ht]

theorem exponent?_of_head (h : t.head? ≠ some 'e') (h' : t.head? ≠ some 'E') : exponent? t = none := by
  match t with
  | [] => rfl
  | c :: t =>
    refine if_neg (not_or_intro ?_ ?_)
    · rintro rfl
      exact h rfl
    · rintro rfl
      exact h' rfl

theorem exponent?_sign (negative : Bool) (hes : ∀ c ∈ es, Digits.isDecimal c = true) (hne : es ≠ [])
    (ht : NoDigit t) :
    exponent? ('e' :: (if negative then '-' else '+') :: (es ++ t)) =
      some (if negative then -(Digits.ofDecimal es : Int) else Digits.ofDecimal es, t) := by
  obtain ⟨c, es, rfl⟩ := List.exists_cons_of_ne_nil hne
  cases negative with
  | true =>
    change exponent? ('e' :: '-' :: (c :: es ++ t)) = _
    rw [exponent?, if_pos (.inl rfl)]
    dsimp only
    rw [digits_append hes ht]
  | false =>
    change exponent? ('e' :: '+' :: (c :: es ++ t)) = _
    rw [exponent?, if_pos (.inl rfl)]
    dsimp only
    rw [digits_append hes ht]

/-- **A number** by its digits, its fraction and its exponent. -/
theorem magnitude?_eq (negative : Bool) (hds : IsWhole ds) (ht : NoDigit t)
    {places : Option (Text × Text)} {power : Option (Int × Text)} (hplaces : fraction? t = places)
    (hpower : exponent? (places.getD ([], t)).2 = power) :
    magnitude? negative (ds ++ t) =
      if places.isNone ∧ power.isNone then
        some (.int (if negative then -(Digits.ofDecimal ds : Int) else Digits.ofDecimal ds),
          (power.getD (0, (places.getD ([], t)).2)).2)
      else
        some (.float (.ofDecimal negative (Digits.ofDecimal (ds ++ (places.getD ([], t)).1))
            ((power.getD (0, (places.getD ([], t)).2)).1 - (places.getD ([], t)).1.length)),
          (power.getD (0, (places.getD ([], t)).2)).2) := by
  subst hplaces hpower
  obtain ⟨c, ds, rfl⟩ := List.exists_cons_of_ne_nil hds.ne_nil
  obtain hzero | hleading := hds.leading
  · obtain ⟨rfl, rfl⟩ := List.cons.inj hzero
    rfl
  · rw [magnitude?, digits_append hds.decimal ht]
    · exact fun rest heq => hleading (congrArg some (List.cons.inj heq).1)

theorem magnitude?_int (negative : Bool) (hds : IsWhole ds) (hrest : EndsWord rest) :
    magnitude? negative (ds ++ rest) =
      some (.int (if negative then -(Digits.ofDecimal ds : Int) else Digits.ofDecimal ds), rest) := by
  have hplaces : fraction? rest = none := fraction?_of_head (hrest.head?_ne (by decide))
  have hpower : exponent? rest = none :=
    exponent?_of_head (hrest.head?_ne (by decide)) (hrest.head?_ne (by decide))
  exact magnitude?_eq negative hds hrest.noDigit hplaces hpower

theorem magnitude?_point (negative : Bool) (hds : IsWhole ds)
    (hfs : ∀ c ∈ fs, Digits.isDecimal c = true) (hne : fs ≠ []) (hrest : EndsWord rest) :
    magnitude? negative (ds ++ '.' :: (fs ++ rest)) =
      some (.float (.ofDecimal negative (Digits.ofDecimal (ds ++ fs)) (-fs.length)), rest) := by
  have hplaces := fraction?_point hfs hne hrest.noDigit
  have hpower : exponent? rest = none :=
    exponent?_of_head (hrest.head?_ne (by decide)) (hrest.head?_ne (by decide))
  rw [magnitude?_eq negative hds (noDigit_cons (by decide)) hplaces hpower, if_neg (by simp),
    ← Int.zero_sub]
  rfl

theorem magnitude?_exponent (negative below : Bool) (hds : IsWhole ds)
    (hfs : ∀ c ∈ fs, Digits.isDecimal c = true) (hes : ∀ c ∈ es, Digits.isDecimal c = true)
    (hne : es ≠ []) (hrest : EndsWord rest) :
    magnitude? negative (ds ++ ((if fs = [] then [] else '.' :: fs) ++
        'e' :: (if below then '-' else '+') :: (es ++ rest))) =
      some (.float (.ofDecimal negative (Digits.ofDecimal (ds ++ fs))
        ((if below then -(Digits.ofDecimal es : Int) else Digits.ofDecimal es) - fs.length)), rest) := by
  have hpower := exponent?_sign below hes hne hrest.noDigit
  by_cases hnil : fs = []
  · subst hnil
    have hplaces := fraction?_of_head (t := 'e' :: (if below then '-' else '+') :: (es ++ rest))
      (by rw [List.head?_cons]; decide)
    rw [if_pos rfl, List.nil_append,
      magnitude?_eq negative hds (noDigit_cons (by decide)) hplaces hpower, if_neg (by simp)]
    rfl
  · have hplaces := fraction?_point hfs hnil (noDigit_cons (c := 'e')
      (t := (if below then '-' else '+') :: (es ++ rest)) (by decide))
    rw [if_neg hnil, List.cons_append,
      magnitude?_eq negative hds (noDigit_cons (by decide)) hplaces hpower, if_neg (by simp)]
    rfl

/-! ## Written numbers -/

open Double

/-- Digits behind which no zeros were cut yet: decimal ones, the first of which is no zero. -/
structure IsDigits (ds : Text) : Prop where
  decimal : ∀ c ∈ ds, Digits.isDecimal c = true
  head?_ne : ds.head? ≠ some '0'
  pos : 0 < Digits.ofDecimal ds

namespace IsDigits

theorem ne_nil (h : IsDigits ds) : ds ≠ [] := by
  rintro rfl
  exact Nat.lt_irrefl 0 h.pos

theorem isWhole_append (h : IsDigits (ds ++ fs)) (hds : ds ≠ [])
    (hes : ∀ c ∈ es, Digits.isDecimal c = true) : IsWhole (ds ++ es) := by
  obtain ⟨c, ds, rfl⟩ := List.exists_cons_of_ne_nil hds
  refine ⟨List.cons_ne_nil _ _, ?_, .inr h.head?_ne⟩
  exact List.forall_mem_append.mpr ⟨(List.forall_mem_append.mp h.decimal).1, hes⟩

end IsDigits

theorem isWhole_ofNat (n : Nat) : IsWhole (Text.ofNat n) := by
  refine ⟨List.ne_nil_of_length_pos (Text.length_ofNat_pos n), Text.isDecimal_of_mem_ofNat, ?_⟩
  rcases Nat.eq_zero_or_pos n with rfl | hn
  · exact .inl rfl
  · exact .inr (Text.head?_ofNat hn)

theorem isDecimal_of_mem_zero : ∀ c ∈ (['0'] : Text), Digits.isDecimal c = true :=
  List.forall_mem_singleton.mpr rfl

theorem isWhole_zero : IsWhole ['0'] := ⟨List.cons_ne_nil _ _, isDecimal_of_mem_zero, .inl rfl⟩

theorem isDecimal_of_mem_nil : ∀ c ∈ ([] : Text), Digits.isDecimal c = true := fun _ h => nomatch h

theorem isDecimal_of_mem_zeros {n : Nat} : ∀ c ∈ List.replicate n '0', Digits.isDecimal c = true := by
  intro c hc
  obtain rfl := List.eq_of_mem_replicate hc
  rfl

/-- A decimal with its point near the digits reads as these digits with their place. -/
theorem magnitude?_positional (negative : Bool) (hds : IsDigits ds) (hrest : EndsWord rest) (p : Int) :
    magnitude? negative (positional ds p ++ rest) =
      some (.float (.ofDecimal negative (Digits.ofDecimal ds) (p - ds.length)), rest) := by
  unfold positional
  split
  · -- All digits stand behind the point.
    have hread := magnitude?_point negative isWhole_zero
      (List.forall_mem_append.mpr ⟨isDecimal_of_mem_zeros (n := (-p).toNat), hds.decimal⟩)
      (List.append_ne_nil_of_right_ne_nil _ hds.ne_nil) hrest
    have hvalue : Digits.ofDecimal (['0'] ++ (List.replicate (-p).toNat '0' ++ ds)) =
        Digits.ofDecimal ds := Digits.ofDecimal_zeros_append ((-p).toNat + 1) ds
    have hplace : (-((List.replicate (-p).toNat '0' ++ ds).length : Nat) : Int) = p - ds.length := by
      rw [List.length_append, List.length_replicate]
      omega
    rwa [hvalue, hplace] at hread
  split
  · -- All digits stand before the point, and zeros behind them.
    obtain ⟨n, hn⟩ : ∃ n, n = p.toNat - ds.length := ⟨_, rfl⟩
    rw [← hn, List.append_assoc]
    have hwhole : IsWhole (ds ++ List.replicate n '0') :=
      (show IsDigits (ds ++ []) by rwa [List.append_nil]).isWhole_append hds.ne_nil
        isDecimal_of_mem_zeros
    have hread := magnitude?_point negative hwhole isDecimal_of_mem_zero (List.cons_ne_nil _ _) hrest
    have hvalue : Digits.ofDecimal (ds ++ List.replicate n '0' ++ ['0']) =
        Digits.ofDecimal ds * 10 ^ (n + 1) := by
      rw [List.append_assoc, ← List.replicate_succ', Digits.ofDecimal_append_zeros]
    have hplace : (-(['0'].length : Nat) : Int) + (n + 1 : Nat) = p - ds.length := by
      rw [List.length_singleton]
      omega
    rwa [hvalue, ofDecimal_mul_pow negative hds.pos, hplace] at hread
  · -- The point stands between the digits.
    obtain ⟨n, rfl⟩ : ∃ n : Nat, p = n := ⟨p.toNat, by omega⟩
    rw [Int.toNat_natCast, List.append_assoc]
    have hsplit : ds.take n ++ ds.drop n = ds := List.take_append_drop n ds
    have hbefore : ds.take n ≠ [] := by
      rw [Ne, List.take_eq_nil_iff, not_or]
      exact ⟨by omega, hds.ne_nil⟩
    have hbehind : ds.drop n ≠ [] := by
      rw [Ne, List.drop_eq_nil_iff]
      omega
    have hwhole : IsWhole (ds.take n ++ []) :=
      (show IsDigits (ds.take n ++ ds.drop n) by rwa [hsplit]).isWhole_append hbefore
        isDecimal_of_mem_nil
    rw [List.append_nil] at hwhole
    have hdecimal : ∀ c ∈ ds.drop n, Digits.isDecimal c = true := fun c hc =>
      hds.decimal c (List.mem_of_mem_drop hc)
    have hread := magnitude?_point negative hwhole hdecimal hbehind hrest
    have hplace : (-((ds.drop n).length : Nat) : Int) = n - ds.length := by
      rw [List.length_drop]
      omega
    rw [hsplit, hplace] at hread
    exact (congrArg (magnitude? negative) (List.append_assoc _ _ _)).trans hread

theorem magnitude?_scientific (negative : Bool) (hds : IsDigits ds) (hrest : EndsWord rest) (e : Int) :
    magnitude? negative (scientific ds e ++ rest) =
      some (.float (.ofDecimal negative (Digits.ofDecimal ds) (e + 1 - ds.length)), rest) := by
  obtain ⟨c, fs, rfl⟩ := List.exists_cons_of_ne_nil hds.ne_nil
  obtain ⟨places, hplaces⟩ : ∃ places,
      places = List.replicate (2 - (Text.ofNat e.natAbs).length) '0' ++ Text.ofNat e.natAbs := ⟨_, rfl⟩
  have hdecimal : ∀ d ∈ places, Digits.isDecimal d = true := by
    rw [hplaces]
    exact List.forall_mem_append.mpr ⟨isDecimal_of_mem_zeros, Text.isDecimal_of_mem_ofNat⟩
  have hvalue : Digits.ofDecimal places = e.natAbs := by
    rw [hplaces, Digits.ofDecimal_zeros_append, Digits.ofDecimal_ofNat]
  have hne : places ≠ [] := by
    rw [hplaces]
    exact List.append_ne_nil_of_right_ne_nil _ (List.ne_nil_of_length_pos (Text.length_ofNat_pos _))
  have hwhole : IsWhole ([c] ++ []) :=
    (show IsDigits ([c] ++ fs) from hds).isWhole_append (List.cons_ne_nil _ _) isDecimal_of_mem_nil
  have hfs : ∀ d ∈ fs, Digits.isDecimal d = true := fun d hd =>
    hds.decimal d (List.mem_cons_of_mem c hd)
  have hread := magnitude?_exponent negative (decide (e < 0)) hwhole hfs hdecimal hne hrest
  have htext : scientific (c :: fs) e ++ rest = [c] ++ ((if fs = [] then [] else '.' :: fs) ++
      'e' :: (if decide (e < 0) = true then '-' else '+') :: (places ++ rest)) := by
    unfold scientific
    rw [List.append_assoc _ (List.replicate _ _), ← hplaces]
    cases fs with
    | nil =>
      by_cases he : e < 0
      · simp [he]
      · simp [he]
    | cons d fs =>
      by_cases he : e < 0
      · simp [he]
      · simp [he]
  have hexponent : (if decide (e < 0) = true then -(Digits.ofDecimal places : Int)
      else Digits.ofDecimal places) - fs.length = e + 1 - (c :: fs).length := by
    rw [hvalue, List.length_cons]
    by_cases he : e < 0
    · rw [if_pos (decide_eq_true he)]
      omega
    · rw [if_neg (by simpa using he)]
      omega
  rw [hexponent] at hread
  rw [htext]
  exact hread

theorem scalar?_digit (negative : Bool) {c : Char} (hc : Digits.isDecimal c = true) (t : Text) :
    scalar? ((if negative then "-" else "" : Text) ++ c :: t) = magnitude? negative (c :: t) := by
  have hne (d : Char) (hd : Digits.isDecimal d = false) : d ≠ c := by
    rintro rfl
    exact Bool.false_ne_true (hd.symm.trans hc)
  have hword (u : Text) (hu : u = c :: t ∨ u = '-' :: c :: t) :
      ∀ entry ∈ words, (entry.1.isPrefixOf? u).map (fun rest => (entry.2, rest)) = none := by
    intro entry hentry
    rw [Option.map_eq_none_iff, Option.eq_none_iff_forall_ne_some]
    intro rest hrest
    rw [List.isPrefixOf?_eq_some_iff_append_eq] at hrest
    simp only [words, List.mem_cons, List.not_mem_nil, or_false] at hentry
    obtain rfl | rfl | rfl | rfl | rfl | rfl := hentry <;> obtain rfl | rfl := hu <;>
      simp [hne 'n' rfl, hne 't' rfl, hne 'f' rfl, hne 'N' rfl, hne 'I' rfl, hne '-' rfl] at hrest
  cases negative with
  | true =>
    change scalar? ('-' :: c :: t) = _
    unfold scalar?
    rw [List.findSome?_eq_none_iff.mpr (hword _ (.inr rfl))]
    rfl
  | false =>
    change scalar? (c :: t) = _
    unfold scalar?
    rw [List.findSome?_eq_none_iff.mpr (hword _ (.inl rfl))]
    split
    · rename_i h
      cases h
    · split
      · rename_i heq
        exact absurd (List.cons.inj heq).1.symm (hne '-' rfl)
      · rfl

theorem scalar?_of_magnitude? {negative : Bool} {result : Scalar × Text}
    (h : magnitude? negative t = some result) :
    scalar? ((if negative then "-" else "" : Text) ++ t) = some result := by
  match t with
  | [] => cases h
  | c :: t =>
    cases hc : Digits.isDecimal c with
    | true => rw [scalar?_digit negative hc, h]
    | false =>
      have hdigits : digits (c :: t) = ([], c :: t) :=
        digits_append isDecimal_of_mem_nil (noDigit_cons hc)
      rw [magnitude?, hdigits] at h
      · cases h
      · rintro rest heq
        rw [(List.cons.inj heq).1] at hc
        cases hc

/-- **An integer reads back.** -/
theorem scalar?_ofInt (hrest : EndsWord rest) (n : Int) :
    scalar? (Text.ofInt n ++ rest) = some (.int n, rest) := by
  have hread (negative : Bool) (n : Nat) :
      scalar? ((if negative then "-" else "" : Text) ++ (Text.ofNat n ++ rest)) =
        some (.int (if negative then -(n : Int) else n), rest) := by
    refine scalar?_of_magnitude? ?_
    rw [magnitude?_int negative (isWhole_ofNat n) hrest, Digits.ofDecimal_ofNat]
  match n with
  | .ofNat n => exact hread false n
  | .negSucc n => exact hread true (n + 1)

theorem cutZeros_append (ds : Text) :
    (cutZeros ds).1 ++ List.replicate (cutZeros ds).2 '0' = ds := by
  obtain ⟨kept, hkept⟩ : ∃ kept, kept = ds.reverse.dropWhile (· == '0') := ⟨_, rfl⟩
  obtain ⟨zeros, hzeros⟩ : ∃ zeros, zeros = ds.reverse.takeWhile (· == '0') := ⟨_, rfl⟩
  have happend : kept.reverse ++ zeros.reverse = ds := by
    rw [← List.reverse_append, hzeros, hkept, List.takeWhile_append_dropWhile, List.reverse_reverse]
  have hzero : zeros.reverse = List.replicate zeros.length '0' := by
    refine List.eq_replicate_iff.mpr ⟨List.length_reverse, fun c hc => ?_⟩
    rw [List.mem_reverse, hzeros] at hc
    exact beq_iff_eq.mp (List.all_eq_true.mp List.all_takeWhile c hc)
  have hlength : ds.length - kept.reverse.length = zeros.length := by
    rw [← happend, List.length_append, List.length_reverse, List.length_reverse,
      Nat.add_sub_cancel_left]
  rw [cutZeros, ← hkept]
  dsimp only
  rw [hlength, ← hzero, happend]

theorem isDigits_cutZeros {q : Nat} (hq : 0 < q) : IsDigits (cutZeros (Text.ofNat q)).1 ∧
    Digits.ofDecimal (cutZeros (Text.ofNat q)).1 * 10 ^ (cutZeros (Text.ofNat q)).2 = q := by
  obtain ⟨ds, n, hcut⟩ : ∃ ds n, cutZeros (Text.ofNat q) = (ds, n) := ⟨_, _, rfl⟩
  have happend := cutZeros_append (Text.ofNat q)
  rw [hcut] at happend ⊢
  dsimp only at happend ⊢
  have hvalue : Digits.ofDecimal ds * 10 ^ n = q := by
    rw [← Digits.ofDecimal_append_zeros, happend, Digits.ofDecimal_ofNat]
  have hpos : 0 < Digits.ofDecimal ds := by
    refine Nat.pos_of_ne_zero fun hzero => ?_
    rw [hzero, Nat.zero_mul] at hvalue
    omega
  refine ⟨⟨fun c hc => ?_, fun hhead => ?_, hpos⟩, hvalue⟩
  · exact Text.isDecimal_of_mem_ofNat c (happend ▸ List.mem_append_left _ hc)
  · refine Text.head?_ofNat hq ?_
    rw [← happend, List.head?_append, hhead]
    rfl

theorem write_finite (words : Spelling) (s : Bool) {m k q n : Nat} {e : Int} (hm : m ≠ 0)
    (hshortest : shortest m k = (q, e)) (hcut : cutZeros (Text.ofNat q) = (ds, n)) :
    (finite s m k).write words = (if s then "-" else "" : Text) ++
      if -4 < (ds.length : Int) + e + n ∧ (ds.length : Int) + e + n ≤ 16
      then positional ds (ds.length + e + n)
      else scientific ds (ds.length + e + n - 1) := by
  rw [write, if_neg hm, hshortest]
  dsimp only
  rw [hcut]

/-- The shortest decimal of a double other than zero, by its digits without the last zeros. -/
theorem exists_shortest {m k : Nat} (hm : 0 < m) (hnormal : (finite false m k).isNormal = true) :
    ∃ q e ds n, shortest m k = (q, e) ∧ cutZeros (Text.ofNat q) = (ds, n) ∧ IsDigits ds ∧
      Digits.ofDecimal ds * 10 ^ n = q ∧ ofDecimal false q e = finite false m k := by
  have hread := ofDecimal_shortest hm hnormal
  have hq : 0 < (shortest m k).1 := by
    refine Nat.pos_of_ne_zero fun hzero => ?_
    rw [hzero, ofDecimal_zero] at hread
    exact hm.ne (finite.inj hread).2.1
  obtain ⟨hds, hvalue⟩ := isDigits_cutZeros hq
  -- The pair is opened by a lemma: by definition the whole search would have to be run.
  exact ⟨_, _, _, _, Prod.mk.eta.symm, Prod.mk.eta.symm, hds, hvalue, hread⟩

/-- **A finite double reads back from its shortest decimal.** -/
theorem scalar?_write (hrest : EndsWord rest) {x : Double} (hx : x.isNormal = true) :
    scalar? (x.write .json ++ rest) = some (.float x, rest) := by
  match x with
  | finite s m k =>
    rcases Nat.eq_zero_or_pos m with rfl | hm
    · obtain ⟨hform, -, -⟩ := isNormal_finite.mp hx
      obtain rfl : k = 0 := hform.resolve_right (by decide)
      have hread := magnitude?_point s isWhole_zero isDecimal_of_mem_zero (List.cons_ne_nil _ _) hrest
      have hvalue : Digits.ofDecimal (['0'] ++ ['0']) = 0 := rfl
      rw [hvalue, ofDecimal_zero] at hread
      rw [write, if_pos rfl, List.append_assoc]
      exact scalar?_of_magnitude? hread
    obtain ⟨q, e, ds, n, hshortest, hcut, hds, hvalue, hread⟩ := exists_shortest hm hx
    have hplace : ofDecimal s (Digits.ofDecimal ds) (e + n) = finite s m k := by
      rw [← ofDecimal_mul_pow s hds.pos, hvalue]
      exact ofDecimal_sign s hread
    rw [write_finite .json s hm.ne' hshortest hcut, List.append_assoc]
    refine scalar?_of_magnitude? ?_
    have hpoint : (ds.length : Int) + e + n - ds.length = e + n := by omega
    have hexponent : (ds.length : Int) + e + n - 1 + 1 - ds.length = e + n := by omega
    split
    · rw [magnitude?_positional s hds hrest, hpoint, hplace]
    · rw [magnitude?_scientific s hds hrest, hexponent, hplace]

end ThemedCss.Json
