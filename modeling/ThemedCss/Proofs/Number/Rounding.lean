import Mathlib.Tactic.Linarith
import Mathlib.Tactic.Ring
import ThemedCss.Number.Double

/-!
# Rounding to doubles

The double nearest to a fraction depends on its value alone, and a fraction that lies near enough to a
double is rounded to it.

* `Double.isNormal`: the finite doubles that there are;
* `scaleOf_eq`, `roundDiv_eq`: the scale and the significand by what is true of them;
* `ofRatio_mul`: a common factor changes nothing;
* `isNormal_ofRatio`: rounding makes no other finite doubles;
* **`ofRatioIn_eq_finite`**: a fraction near a double is rounded to it.
-/

namespace ThemedCss.Double

/-- Whether a double is finite and has the form that its magnitude has among the doubles: below the
smallest normal magnitude the scale is zero, and from there on the significand has 53 binary digits. -/
def isNormal : Double → Bool
  | finite _ m k => (k = 0 || Nat.pow 2 52 ≤ m) && m < Nat.pow 2 53 && k ≤ maxScale
  | _ => false

theorem isNormal_finite {s : Bool} {m k : Nat} :
    (finite s m k).isNormal = true ↔ (k = 0 ∨ 2 ^ 52 ≤ m) ∧ m < 2 ^ 53 ∧ k ≤ maxScale := by
  simp only [isNormal, Bool.and_eq_true, Bool.or_eq_true, decide_eq_true_eq, Nat.pow_eq, and_assoc]

/-! ## The scale -/

theorem scaleOf_spec (n : Nat) {d : Nat} (hd : 0 < d) :
    n < d * 2 ^ (scaleOf n d + 53) ∧ (scaleOf n d = 0 ∨ d * 2 ^ (scaleOf n d + 52) ≤ n) := by
  obtain ⟨k, hk⟩ : ∃ k, k = n.log2 - d.log2 - 53 := ⟨_, rfl⟩
  have hscale : scaleOf n d = if d * 2 ^ (k + 53) ≤ n then k + 1 else k := by rw [hk]; rfl
  have habove : n < d * 2 ^ (k + 54) :=
    calc n < 2 ^ (n.log2 + 1) := Nat.lt_log2_self
      _ ≤ 2 ^ (d.log2 + (k + 54)) := Nat.pow_le_pow_right Nat.two_pos (by omega)
      _ = 2 ^ d.log2 * 2 ^ (k + 54) := Nat.pow_add 2 _ _
      _ ≤ d * 2 ^ (k + 54) := Nat.mul_le_mul_right _ (Nat.log2_self_le hd.ne')
  rw [hscale]
  split
  · exact ⟨habove, .inr ‹_›⟩
  · refine ⟨Nat.not_le.mp ‹_›, ?_⟩
    rcases Nat.eq_zero_or_pos k with hzero | hpos
    · exact .inl hzero
    have hn : n ≠ 0 := by
      rintro rfl
      rw [Nat.log2_zero] at hk
      omega
    have hbelow : d * 2 ^ (k + 52) ≤ n :=
      calc d * 2 ^ (k + 52) ≤ 2 ^ (d.log2 + 1) * 2 ^ (k + 52) :=
            Nat.mul_le_mul_right _ Nat.lt_log2_self.le
        _ = 2 ^ (d.log2 + 1 + (k + 52)) := (Nat.pow_add 2 _ _).symm
        _ ≤ 2 ^ n.log2 := Nat.pow_le_pow_right Nat.two_pos (by omega)
        _ ≤ n := Nat.log2_self_le hn
    exact .inr hbelow

theorem scaleOf_eq {n d k : Nat} (hd : 0 < d) (hlt : n < d * 2 ^ (k + 53))
    (hle : k = 0 ∨ d * 2 ^ (k + 52) ≤ n) : scaleOf n d = k := by
  obtain ⟨hlt', hle'⟩ := scaleOf_spec n hd
  have hmono {i j : Nat} (h : i + 1 ≤ j) : d * 2 ^ (i + 53) ≤ d * 2 ^ (j + 52) :=
    Nat.mul_le_mul_left d (Nat.pow_le_pow_right Nat.two_pos (by omega))
  rcases Nat.lt_trichotomy (scaleOf n d) k with h | h | h
  · have := hmono h
    omega
  · exact h
  · have := hmono h
    omega

theorem scaleOf_mul {d c : Nat} (hd : 0 < d) (hc : 0 < c) (n : Nat) :
    scaleOf (n * c) (d * c) = scaleOf n d := by
  obtain ⟨hlt, hle⟩ := scaleOf_spec n hd
  refine scaleOf_eq (Nat.mul_pos hd hc) ?_ (hle.imp_right fun hle => ?_)
  · rw [Nat.mul_right_comm]
    exact Nat.mul_lt_mul_of_pos_right hlt hc
  · rw [Nat.mul_right_comm]
    exact Nat.mul_le_mul_right c hle

/-! ## The significand -/

theorem roundDiv_eq {n d q : Nat} (hlo : 2 * (q * d) < 2 * n + d) (hhi : 2 * n < 2 * (q * d) + d) :
    roundDiv n d = q := by
  have hn : n / d * d + n % d = n := Nat.div_add_mod' n d
  have hr : n % d < d := Nat.mod_lt n (by omega)
  have hq (a b : Nat) (h : a * d < (b + 1) * d) : a ≤ b :=
    Nat.lt_succ_iff.mp (Nat.lt_of_mul_lt_mul_right h)
  have hle : q ≤ n / d + 1 := hq _ _ (by rw [Nat.add_mul, Nat.add_mul]; omega)
  have hge : n / d ≤ q := hq _ _ (by rw [Nat.add_mul]; omega)
  rcases Nat.lt_or_ge (n / d) q with hlt | hle'
  · obtain rfl : q = n / d + 1 := by omega
    rw [Nat.add_mul] at hlo hhi
    rw [roundDiv, if_neg (by omega), if_pos (by omega)]
  · obtain rfl : q = n / d := by omega
    rw [roundDiv, if_pos (by omega)]

/-- A rounded quotient is at most a half away. -/
theorem roundDiv_spec (n : Nat) {d : Nat} (hd : 0 < d) :
    2 * (roundDiv n d * d) ≤ 2 * n + d ∧ 2 * n ≤ 2 * (roundDiv n d * d) + d := by
  have hn : n / d * d + n % d = n := Nat.div_add_mod' n d
  have hr : n % d < d := Nat.mod_lt n hd
  rw [roundDiv]
  split
  · omega
  split
  · rw [Nat.add_mul]
    omega
  · rcases Nat.mod_two_eq_zero_or_one (n / d) with heven | hodd
    · rw [heven, Nat.add_zero]
      omega
    · rw [hodd, Nat.add_mul]
      omega

theorem le_roundDiv {n d q : Nat} (hd : 0 < d) (h : q * d ≤ n) : q ≤ roundDiv n d := by
  obtain ⟨-, hnear⟩ := roundDiv_spec n hd
  refine Nat.not_lt.mp fun hlt => ?_
  have hstep : (roundDiv n d + 1) * d ≤ q * d := Nat.mul_le_mul_right d hlt
  rw [Nat.succ_mul] at hstep
  omega

theorem roundDiv_le {n d q : Nat} (hd : 0 < d) (h : n ≤ q * d) : roundDiv n d ≤ q := by
  obtain ⟨hnear, -⟩ := roundDiv_spec n hd
  refine Nat.not_lt.mp fun hlt => ?_
  have hstep : (q + 1) * d ≤ roundDiv n d * d := Nat.mul_le_mul_right d hlt
  rw [Nat.succ_mul] at hstep
  omega

theorem roundDiv_mul_right {c : Nat} (hc : 0 < c) (n d : Nat) :
    roundDiv (n * c) (d * c) = roundDiv n d := by
  have hlt (a b : Nat) : 2 * (a * c) < b * c ↔ 2 * a < b := by
    rw [← Nat.mul_assoc, Nat.mul_lt_mul_right hc]
  have hgt (a b : Nat) : b * c < 2 * (a * c) ↔ b < 2 * a := by
    rw [← Nat.mul_assoc, Nat.mul_lt_mul_right hc]
  simp only [roundDiv, Nat.mul_div_mul_right _ _ hc, Nat.mul_mod_mul_right, hlt, hgt]

/-! ## Fractions -/

/-- The double nearest to the fraction `n / d`, when one is so many units of the smallest magnitude. -/
def ofRatioIn (units : Nat) (negative : Bool) (n d : Nat) : Double :=
  let k := scaleOf (n * units) d
  let m := roundDiv (n * units) (d * Nat.pow 2 k)
  let (m, k) := if m = Nat.pow 2 53 then (Nat.pow 2 52, k + 1) else (m, k)
  if k ≤ maxScale then finite negative m k else infinite negative

theorem ofRatio_eq : ofRatio = ofRatioIn denominator := by
  -- the number of units is a large numeral, which nothing may compute with
  have hunits : ofRatio = ofRatioIn (Nat.pow 2 1074) := by
    delta ofRatio ofRatioIn
    with_reducible rfl
  delta denominator
  exact hunits

variable {units n d m k : Nat}

theorem ofRatioIn_mul {c : Nat} (hd : 0 < d) (hc : 0 < c) (s : Bool) (n : Nat) :
    ofRatioIn units s (n * c) (d * c) = ofRatioIn units s n d := by
  rw [ofRatioIn, ofRatioIn, Nat.mul_right_comm n c, scaleOf_mul hd hc]
  dsimp only
  rw [Nat.mul_right_comm d c, roundDiv_mul_right hc]

/-- **A common factor** of numerator and denominator changes nothing. -/
theorem ofRatio_mul {c : Nat} (hd : 0 < d) (hc : 0 < c) (s : Bool) (n : Nat) :
    ofRatio s (n * c) (d * c) = ofRatio s n d := by
  rw [ofRatio_eq]
  exact ofRatioIn_mul hd hc s n

theorem ofRatioIn_sign (s : Bool) (h : ofRatioIn units false n d = finite false m k) :
    ofRatioIn units s n d = finite s m k := by
  rw [ofRatioIn] at h ⊢
  dsimp only at h ⊢
  generalize (if roundDiv (n * units) (d * Nat.pow 2 (scaleOf (n * units) d)) = Nat.pow 2 53 then
      (Nat.pow 2 52, scaleOf (n * units) d + 1)
    else (roundDiv (n * units) (d * Nat.pow 2 (scaleOf (n * units) d)),
      scaleOf (n * units) d)) = p at h ⊢
  split at h
  · obtain ⟨-, rfl, rfl⟩ := finite.inj h
    exact if_pos ‹_›
  · cases h

/-- **A rounded fraction is a double of the form that there is**, or infinite. -/
theorem isNormal_ofRatioIn (hd : 0 < d) {s s' : Bool} (h : ofRatioIn units s n d = finite s' m k) :
    (finite s' m k).isNormal = true := by
  obtain ⟨hlt, hle⟩ := scaleOf_spec (n * units) hd
  rw [ofRatioIn] at h
  dsimp only at h
  rw [Nat.pow_eq, Nat.pow_eq, Nat.pow_eq] at h
  generalize scaleOf (n * units) d = scale at hlt hle h
  have hunit : 0 < d * 2 ^ scale := Nat.mul_pos hd (Nat.pow_pos Nat.two_pos)
  have hpow (i : Nat) : d * 2 ^ (scale + i) = 2 ^ i * (d * 2 ^ scale) := by
    rw [Nat.pow_add]
    ring
  have hbelow : roundDiv (n * units) (d * 2 ^ scale) ≤ 2 ^ 53 :=
    roundDiv_le hunit (by rw [← hpow]; exact hlt.le)
  have habove : scale = 0 ∨ 2 ^ 52 ≤ roundDiv (n * units) (d * 2 ^ scale) :=
    hle.imp_right fun hle => le_roundDiv hunit (by rwa [← hpow])
  generalize roundDiv (n * units) (d * 2 ^ scale) = rounded at hbelow habove h
  by_cases hcarry : rounded = 2 ^ 53
  · rw [if_pos hcarry] at h
    split at h
    · obtain ⟨-, rfl, rfl⟩ := finite.inj h
      exact isNormal_finite.mpr ⟨.inr le_rfl, Nat.pow_lt_pow_right Nat.one_lt_two (by decide), ‹_›⟩
    · cases h
  · rw [if_neg hcarry] at h
    split at h
    · obtain ⟨-, rfl, rfl⟩ := finite.inj h
      exact isNormal_finite.mpr ⟨habove, Nat.lt_of_le_of_ne hbelow hcarry, ‹_›⟩
    · cases h

theorem isNormal_ofRatio (hd : 0 < d) {s s' : Bool} (h : ofRatio s n d = finite s' m k) :
    (finite s' m k).isNormal = true := by
  rw [ofRatio_eq] at h
  exact isNormal_ofRatioIn hd h

theorem ofRatioIn_of_ne (s : Bool) (hscale : scaleOf (n * units) d = k)
    (hround : roundDiv (n * units) (d * 2 ^ k) = m) (hm : m ≠ 2 ^ 53) (hk : k ≤ maxScale) :
    ofRatioIn units s n d = finite s m k := by
  have hround' : roundDiv (n * units) (d * Nat.pow 2 k) = m := hround
  have hm' : ¬ m = Nat.pow 2 53 := hm
  rw [ofRatioIn, hscale]
  simp only [hround', if_neg hm', if_pos hk]

theorem ofRatioIn_of_eq (s : Bool) (hscale : scaleOf (n * units) d = k)
    (hround : roundDiv (n * units) (d * 2 ^ k) = 2 ^ 53) (hk : k + 1 ≤ maxScale) :
    ofRatioIn units s n d = finite s (2 ^ 52) (k + 1) := by
  have hround' : roundDiv (n * units) (d * Nat.pow 2 k) = Nat.pow 2 53 := hround
  rw [ofRatioIn, hscale]
  simp only [hround', if_true, if_pos hk]
  rfl

/-- **A fraction that lies within half the gap around a double is rounded to it.** The gap below a
power of two is half the one above, and both are more than a part in `2 ^ 53` of the magnitude. -/
theorem ofRatioIn_eq_finite (hd : 0 < d) (hnormal : (finite false m k).isNormal = true)
    (hlo : 2 ^ 54 * (m * 2 ^ k * d) < 2 ^ 54 * (n * units) + m * 2 ^ k * d)
    (hhi : 2 ^ 54 * (n * units) < 2 ^ 54 * (m * 2 ^ k * d) + m * 2 ^ k * d) :
    ofRatioIn units false n d = finite false m k := by
  obtain ⟨hform, hm53, hk⟩ := isNormal_finite.mp hnormal
  rw [Nat.mul_assoc] at hlo hhi
  have hsum : m * (2 ^ k * d) + 2 ^ k * d ≤ 2 ^ 53 * (2 ^ k * d) :=
    calc m * (2 ^ k * d) + 2 ^ k * d = (m + 1) * (2 ^ k * d) := (Nat.succ_mul _ _).symm
      _ ≤ 2 ^ 53 * (2 ^ k * d) := Nat.mul_le_mul_right _ hm53
  by_cases hinside : k = 0 ∨ 2 ^ 52 * (2 ^ k * d) ≤ n * units
  · have hpow (i : Nat) : d * 2 ^ (k + i) = 2 ^ i * (2 ^ k * d) := by rw [Nat.pow_add]; ring
    have hscale : scaleOf (n * units) d = k :=
      scaleOf_eq hd (by rw [hpow]; omega) (hinside.imp_right fun h => by rwa [hpow])
    have hround : roundDiv (n * units) (d * 2 ^ k) = m :=
      roundDiv_eq (by rw [Nat.mul_comm d]; omega) (by rw [Nat.mul_comm d]; omega)
    exact ofRatioIn_of_ne false hscale hround hm53.ne hk
  · obtain ⟨hk0, hbelow⟩ := not_or.mp hinside
    -- Below a power of two the significand is counted in the units of the scale below.
    obtain ⟨j, rfl⟩ := Nat.exists_eq_add_one_of_ne_zero hk0
    have hm : m = 2 ^ 52 := by
      refine Nat.le_antisymm (Nat.not_lt.mp fun hlt => hbelow ?_) (hform.resolve_left hk0)
      have hmore : 2 ^ 52 * (2 ^ (j + 1) * d) + 2 ^ (j + 1) * d ≤ m * (2 ^ (j + 1) * d) := by
        rw [← Nat.succ_mul]
        exact Nat.mul_le_mul_right _ hlt
      omega
    subst hm
    have hpow (i : Nat) : d * 2 ^ (j + i) = 2 ^ i * (2 ^ j * d) := by rw [Nat.pow_add]; ring
    have hdouble : 2 ^ (j + 1) * d = 2 * (2 ^ j * d) := by rw [Nat.pow_succ]; ring
    rw [hdouble] at hlo hhi hbelow
    have hscale : scaleOf (n * units) d = j :=
      scaleOf_eq hd (by rw [hpow]; omega) (.inr (by rw [hpow]; omega))
    have hround : roundDiv (n * units) (d * 2 ^ j) = 2 ^ 53 :=
      roundDiv_eq (by rw [Nat.mul_comm d]; omega) (by rw [Nat.mul_comm d]; omega)
    exact ofRatioIn_of_eq false hscale hround hk

end ThemedCss.Double
