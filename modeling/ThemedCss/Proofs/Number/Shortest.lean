import ThemedCss.Number.Shortest
import ThemedCss.Proofs.Number.Digits
import ThemedCss.Proofs.Number.Rounding

/-!
# Shortest decimals read back

Seventeen digits are enough for every double: a decimal with so many lies within a part in `2 ^ 54` of
the number, and is rounded to it.

* `ofDecimal_mul_ten`: zeros behind the digits of a decimal belong to its place;
* `ofDecimal_near`: the decimal with seventeen digits is rounded to the number;
* **`ofDecimal_shortest`**: there is a shortest decimal, and it reads back.
-/

namespace ThemedCss

namespace Double

/-! ## Decimals -/

variable {m k : Nat} {e : Int}

theorem ofDecimal_zero (s : Bool) (e : Int) : ofDecimal s 0 e = finite s 0 0 := by
  rw [ofDecimal, if_pos (.inl rfl)]

theorem ofDecimal_of_lt (s : Bool) (h : (Text.ofNat m).length + e < -400) :
    ofDecimal s m e = finite s 0 0 := if_pos (.inr h)

theorem ofDecimal_of_gt (s : Bool) (hm : 0 < m) (h : 400 < (Text.ofNat m).length + e) :
    ofDecimal s m e = infinite s := by
  rw [ofDecimal, if_neg (by omega), if_pos h]

theorem ofDecimal_eq (s : Bool) (hm : 0 < m) (hlo : -400 ≤ (Text.ofNat m).length + e)
    (hhi : (Text.ofNat m).length + e ≤ 400) :
    ofDecimal s m e =
      if 0 ≤ e then ofRatio s (m * 10 ^ e.toNat) 1 else ofRatio s m (10 ^ (-e).toNat) := by
  rw [ofDecimal, if_neg (by omega), if_neg (by omega)]
  rfl

theorem isNormal_ofDecimal {q : Nat} {s s' : Bool} (h : ofDecimal s q e = finite s' m k) :
    (finite s' m k).isNormal = true := by
  rw [ofDecimal] at h
  split at h
  · obtain ⟨-, rfl, rfl⟩ := finite.inj h
    exact isNormal_finite.mpr ⟨.inl rfl, Nat.pow_pos Nat.two_pos, Nat.zero_le _⟩
  split at h
  · cases h
  split at h
  · exact isNormal_ofRatio Nat.one_pos h
  · exact isNormal_ofRatio (Nat.pow_pos (by decide)) h

/-- **A zero behind the digits of a decimal belongs to its place.** -/
theorem ofDecimal_mul_ten (s : Bool) (hm : 0 < m) (e : Int) :
    ofDecimal s (m * 10) e = ofDecimal s m (e + 1) := by
  have hten : 0 < m * 10 := Nat.mul_pos hm (by decide)
  have hlength : ((Text.ofNat (m * 10)).length : Int) + e = (Text.ofNat m).length + (e + 1) := by
    rw [Text.ofNat_mul_ten hm, List.length_append, List.length_singleton]
    omega
  rcases Int.lt_or_le ((Text.ofNat m).length + (e + 1)) (-400) with hlo | hlo
  · rw [ofDecimal_of_lt s hlo, ofDecimal_of_lt s (hlength ▸ hlo)]
  rcases Int.lt_or_le 400 ((Text.ofNat m).length + (e + 1)) with hhi | hhi
  · rw [ofDecimal_of_gt s hm hhi, ofDecimal_of_gt s hten (hlength ▸ hhi)]
  rw [ofDecimal_eq s hten (hlength ▸ hlo) (hlength ▸ hhi), ofDecimal_eq s hm hlo hhi]
  rcases Int.lt_or_le e 0 with hneg | hpos
  · obtain ⟨c, rfl⟩ : ∃ c : Nat, e = -(c + 1 : Nat) := ⟨(-e).toNat - 1, by omega⟩
    have hfactor : ofRatio s (m * 10) (10 ^ (c + 1)) = ofRatio s m (10 ^ c) :=
      ofRatio_mul (Nat.pow_pos (by decide)) (by decide) s m
    rw [if_neg (by omega), Int.neg_neg, Int.toNat_natCast, hfactor]
    cases c with
    | zero =>
      have hplace : (-((0 + 1 : Nat) : Int) + 1).toNat = 0 := rfl
      rw [if_pos (by omega), hplace, Nat.pow_zero, Nat.mul_one]
    | succ c =>
      have hplace : (-(-((c + 1 + 1 : Nat) : Int) + 1)).toNat = c + 1 := by omega
      rw [if_neg (by omega), hplace]
  · rw [if_pos hpos, if_pos (by omega), Nat.mul_assoc, ← Nat.pow_succ', Int.toNat_add hpos (by decide)]
    rfl

theorem ofDecimal_mul_pow (s : Bool) (hm : 0 < m) (c : Nat) (e : Int) :
    ofDecimal s (m * 10 ^ c) e = ofDecimal s m (e + c) := by
  induction c generalizing e with
  | zero => rw [Nat.pow_zero, Nat.mul_one, Int.natCast_zero, Int.add_zero]
  | succ c ih =>
    rw [Nat.pow_succ, ← Nat.mul_assoc, ofDecimal_mul_ten s (Nat.mul_pos hm (Nat.pow_pos (by decide))),
      ih, Int.natCast_succ, Int.add_assoc, Int.add_comm 1]

/-! ## Seventeen digits -/

theorem denominator_pos : 0 < denominator := by
  delta denominator
  decide +kernel

theorem numerator_le {i j : Nat} (hm : m ≤ 2 ^ i) (hk : k ≤ j) : numerator m k ≤ 2 ^ i * 2 ^ j :=
  Nat.mul_le_mul hm (Nat.pow_le_pow_right Nat.two_pos hk)

theorem denominator_le : denominator ≤ 10 ^ 330 := by
  delta denominator
  decide +kernel

theorem lt_denominator : 2 ^ 53 * 2 ^ maxScale * 10 ^ 330 < denominator * 10 ^ 639 := by
  delta denominator maxScale
  decide +kernel

/-- The units of the seventeenth digit: a magnitude has at least `10 ^ 16` and less than `10 ^ 17` of
them. -/
theorem inUnits_bounds {a l : Nat} (he : e = l - a - 17) (hl : 0 < l)
    (hlo : denominator * 10 ^ (l - 1) ≤ numerator m k * 10 ^ a)
    (hhi : numerator m k * 10 ^ a < denominator * 10 ^ l) :
    10 ^ 16 * (inUnits m k e).2 ≤ (inUnits m k e).1 ∧
      (inUnits m k e).1 < 10 ^ 17 * (inUnits m k e).2 := by
  rw [inUnits]
  generalize numerator m k = n at hlo hhi ⊢
  generalize denominator = d at hlo hhi ⊢
  split
  · obtain ⟨c, rfl⟩ : ∃ c : Nat, e = c := ⟨e.toNat, by omega⟩
    obtain rfl : l = c + a + 16 + 1 := by omega
    have hpow (i : Nat) : d * 10 ^ (c + a + i) = 10 ^ i * (d * 10 ^ c) * 10 ^ a := by
      rw [Nat.pow_add, Nat.pow_add]
      ring
    rw [Nat.add_sub_cancel, hpow] at hlo
    rw [Nat.add_assoc, hpow] at hhi
    exact ⟨Nat.le_of_mul_le_mul_right hlo (Nat.pow_pos (by decide)),
      Nat.lt_of_mul_lt_mul_right hhi⟩
  · obtain ⟨c, rfl⟩ : ∃ c : Nat, e = -c := ⟨(-e).toNat, by omega⟩
    have hpow (i j : Nat) (h : i + c = a + j) : d * 10 ^ i * 10 ^ c = 10 ^ j * d * 10 ^ a := by
      rw [Nat.mul_assoc, ← Nat.pow_add, h, Nat.pow_add]
      ring
    have hlo' := Nat.mul_le_mul_right (10 ^ c) hlo
    have hhi' := Nat.mul_lt_mul_of_pos_right hhi (Nat.pow_pos (by decide) : 0 < 10 ^ c)
    rw [hpow _ 16 (by omega), Nat.mul_right_comm n] at hlo'
    rw [hpow _ 17 (by omega), Nat.mul_right_comm n] at hhi'
    rw [Int.neg_neg, Int.toNat_natCast]
    exact ⟨Nat.le_of_mul_le_mul_right hlo' (Nat.pow_pos (by decide)),
      Nat.lt_of_mul_lt_mul_right hhi'⟩

theorem inUnits_snd_pos (m k : Nat) (e : Int) : 0 < (inUnits m k e).2 := by
  have hpos := denominator_pos
  rw [inUnits]
  generalize denominator = d at hpos ⊢
  split
  · exact Nat.mul_pos hpos (Nat.pow_pos (by decide))
  · exact hpos

theorem near_of_units {n d q : Nat} (hd : 0 < d) (hn : 10 ^ 16 * d ≤ n)
    (hlo : 2 * (q * d) ≤ 2 * n + d) (hhi : 2 * n ≤ 2 * (q * d) + d) :
    2 ^ 54 * n < 2 ^ 54 * (q * d) + n ∧ 2 ^ 54 * (q * d) < 2 ^ 54 * n + n := by
  omega

/-- **The decimal with seventeen digits next to a double is rounded to it.** -/
theorem ofDecimal_near (hnormal : (finite false m k).isNormal = true)
    (hlo : 10 ^ 16 * (inUnits m k e).2 ≤ (inUnits m k e).1)
    (hhi : (inUnits m k e).1 < 10 ^ 17 * (inUnits m k e).2) (helo : -400 ≤ e) (hehi : e ≤ 380) :
    ofDecimal false (roundDiv (inUnits m k e).1 (inUnits m k e).2) e = finite false m k := by
  have hd := inUnits_snd_pos m k e
  obtain ⟨hnear, hnear'⟩ := roundDiv_spec (inUnits m k e).1 hd
  obtain ⟨q, hq⟩ : ∃ q, q = roundDiv (inUnits m k e).1 (inUnits m k e).2 := ⟨_, rfl⟩
  rw [← hq] at hnear hnear' ⊢
  have hpos : 0 < q := by
    rcases Nat.eq_zero_or_pos q with rfl | hpos
    · omega
    · exact hpos
  have hlength : (Text.ofNat q).length ≤ 18 := by
    have hlt : q * (inUnits m k e).2 < 10 ^ 18 * (inUnits m k e).2 := by omega
    exact (Text.length_ofNat_le_iff (by decide)).mpr (Nat.lt_of_mul_lt_mul_right hlt)
  have hlengthpos := Text.length_ofNat_pos q
  obtain ⟨hbelow, habove⟩ := near_of_units hd hlo hnear hnear'
  rw [ofDecimal_eq false hpos (by omega) (by omega), ofRatio_eq]
  rw [inUnits, numerator] at hbelow habove
  clear hnear hnear' hlo hhi hd hq
  generalize denominator = d at hbelow habove ⊢
  by_cases he : 0 ≤ e
  · rw [if_pos he] at hbelow habove ⊢
    have hunits : q * 10 ^ e.toNat * d = q * (d * 10 ^ e.toNat) := by ring
    exact ofRatioIn_eq_finite Nat.one_pos hnormal
      (by rw [Nat.mul_one, hunits]; exact hbelow) (by rw [Nat.mul_one, hunits]; exact habove)
  · rw [if_neg he] at hbelow habove ⊢
    exact ofRatioIn_eq_finite (Nat.pow_pos (by decide)) hnormal hbelow habove

theorem leadingPlace_bounds (hm : 0 < m) (hnormal : (finite false m k).isNormal = true) :
    ∃ l : Nat, leadingPlace m k = l - 330 ∧ 0 < l ∧ l ≤ 639 ∧
      denominator * 10 ^ (l - 1) ≤ numerator m k * 10 ^ 330 ∧
      numerator m k * 10 ^ 330 < denominator * 10 ^ l := by
  obtain ⟨-, hm53, hk⟩ := isNormal_finite.mp hnormal
  have hle : 10 ^ 330 ≤ numerator m k * 10 ^ 330 :=
    Nat.le_mul_of_pos_left _ (Nat.mul_pos hm (Nat.pow_pos Nat.two_pos))
  have hlt : numerator m k * 10 ^ 330 < denominator * 10 ^ 639 :=
    Nat.lt_of_le_of_lt (Nat.mul_le_mul_right _ (numerator_le hm53.le hk)) lt_denominator
  obtain ⟨t, ht⟩ : ∃ t, t = numerator m k * 10 ^ 330 / denominator := ⟨_, rfl⟩
  have hplace : leadingPlace m k = (Text.ofNat t).length - 330 := by
    -- The exponent is named because the power is too large to be computed.
    obtain ⟨p, hp⟩ : ∃ p : Nat, p = 330 := ⟨_, rfl⟩
    rw [ht, leadingPlace, ← hp, Nat.pow_eq]
  have hmul (i : Nat) : i ≤ t ↔ denominator * i ≤ numerator m k * 10 ^ 330 := by
    rw [ht, Nat.le_div_iff_mul_le denominator_pos, Nat.mul_comm]
  have hmul' (i : Nat) : t < i ↔ numerator m k * 10 ^ 330 < denominator * i := by
    rw [← Nat.not_le, hmul, Nat.not_le]
  have htpos : 0 < t :=
    (hmul 1).mpr (by rw [Nat.mul_one]; exact Nat.le_trans denominator_le hle)
  have htle : 10 ^ ((Text.ofNat t).length - 1) ≤ t := Text.pow_length_ofNat_le htpos
  have htlt : t < 10 ^ (Text.ofNat t).length := Text.lt_pow_length_ofNat t
  exact ⟨(Text.ofNat t).length, hplace, Text.length_ofNat_pos t,
    (Text.length_ofNat_le_iff (by decide)).mpr ((hmul' _).mpr hlt), (hmul _).mp htle,
    (hmul' _).mp htlt⟩

theorem isSome_onGrid? (h : ofDecimal false (roundDiv (inUnits m k e).1 (inUnits m k e).2) e =
    finite false m k) : (onGrid? m k e).isSome = true := by
  obtain ⟨other, hneighbours⟩ : ∃ other, neighbours m k e =
      [roundDiv (inUnits m k e).1 (inUnits m k e).2, other] := ⟨_, rfl⟩
  rw [onGrid?, Option.isSome_map, hneighbours, List.find?_cons_of_pos]
  · rfl
  · exact decide_eq_true h

/-- **There is a shortest decimal, and it reads back.** -/
theorem ofDecimal_shortest (hm : 0 < m) (hnormal : (finite false m k).isNormal = true) :
    ofDecimal false (shortest m k).1 (shortest m k).2 = finite false m k := by
  obtain ⟨l, hplace, hl, hl639, hlo, hhi⟩ := leadingPlace_bounds hm hnormal
  have hseventeen : (onGrid? m k (leadingPlace m k - (17 : Nat))).isSome = true := by
    obtain ⟨hlo', hhi'⟩ := inUnits_bounds (e := leadingPlace m k - (17 : Nat)) (by omega) hl hlo hhi
    exact isSome_onGrid? (ofDecimal_near hnormal hlo' hhi' (by omega) (by omega))
  obtain ⟨d, hd⟩ : ∃ d, (List.range' 1 17).findSome? (fun digits : Nat =>
      onGrid? m k (leadingPlace m k - digits)) = some d := by
    refine Option.isSome_iff_exists.mp (List.findSome?_isSome_iff.mpr ⟨17, ?_, hseventeen⟩)
    decide
  obtain ⟨digits, -, hdigits⟩ := List.exists_of_findSome?_eq_some hd
  rw [shortest, hd]
  exact ofDecimal_of_onGrid? hdigits

theorem ofDecimal_sign {q : Nat} (s : Bool) (h : ofDecimal false q e = finite false m k) :
    ofDecimal s q e = finite s m k := by
  rw [ofDecimal] at h ⊢
  split at h
  · rw [if_pos ‹_›]
    obtain ⟨-, rfl, rfl⟩ := finite.inj h
    rfl
  rw [if_neg ‹_›]
  split at h
  · cases h
  rw [if_neg ‹_›]
  rw [ofRatio_eq] at h ⊢
  split at h
  · rw [if_pos ‹_›]
    exact ofRatioIn_sign s h
  · rw [if_neg ‹_›]
    exact ofRatioIn_sign s h

end Double

end ThemedCss
