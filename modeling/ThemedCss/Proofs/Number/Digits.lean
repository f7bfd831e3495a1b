import Mathlib.Algebra.GroupWithZero.Nat
import Mathlib.Data.List.Induction
import ThemedCss.Document.Digits
import ThemedCss.Text.Quoted

/-!
# The digits of a number

* `Text.length_ofNat_le_iff`, `Text.ofNat_mul_ten`: how many digits a number has;
* `Text.isDecimal_of_mem_ofNat`, `Text.head?_ofNat`: which digits these are;
* `Digits.ofBase_append`: the number of a run of digits, part by part;
* **`Digits.ofDecimal_ofNat`**, `Digits.ofBase_hexDigits`: the digits of a number stand for it.
-/

namespace ThemedCss

namespace Text

/-! ## Written digits -/

theorem length_ofNat_le_iff {n k : Nat} (hk : 0 < k) : (ofNat n).length ≤ k ↔ n < 10 ^ k :=
  Nat.length_toDigits_le_iff (by decide) hk

theorem length_ofNat_pos (n : Nat) : 0 < (ofNat n).length := Nat.length_toDigits_pos

theorem lt_pow_length_ofNat (n : Nat) : n < 10 ^ (ofNat n).length :=
  (length_ofNat_le_iff (length_ofNat_pos n)).mp (Nat.le_refl _)

theorem pow_length_ofNat_le {n : Nat} (hn : 0 < n) : 10 ^ ((ofNat n).length - 1) ≤ n := by
  rcases Nat.eq_zero_or_pos ((ofNat n).length - 1) with h | h
  · rw [h]
    exact hn
  · refine Nat.not_lt.mp fun hlt => ?_
    have := (length_ofNat_le_iff h).mpr hlt
    omega

theorem ofNat_mul_ten {n : Nat} (hn : 0 < n) : ofNat (n * 10) = ofNat n ++ ['0'] := by
  rw [Nat.mul_comm]
  exact (Nat.toDigits_append_toDigits (b := 10) (d := 0) (by decide) hn (by decide)).symm

theorem ofNat_of_lt {n : Nat} (h : n < 10) : ofNat n = [n.digitChar] := Nat.toDigits_of_lt_base h

theorem ofNat_of_le {n : Nat} (h : 10 ≤ n) : ofNat n = ofNat (n / 10) ++ [(n % 10).digitChar] :=
  Nat.toDigits_of_base_le (by decide) h

end Text

namespace Digits

theorem value?_digitChar {n : Nat} (h : n < 16) : value? n.digitChar = some n := by
  have hall : ∀ i : Fin 16, value? (Nat.digitChar i) = some i.val := by decide
  exact hall ⟨n, h⟩

theorem isDecimal_digitChar {n : Nat} (h : n < 10) : isDecimal n.digitChar = true := by
  rw [isDecimal, isDigitOf, value?_digitChar (by omega)]
  exact decide_eq_true h

/-! ## Runs of digits -/

/-- **The number of a run of digits**, from those of its two parts. -/
theorem ofBase_append (base : Nat) (ds es : Text) :
    ofBase base (ds ++ es) = ofBase base ds * base ^ es.length + ofBase base es := by
  induction es using List.reverseRecOn with
  | nil =>
    rw [List.append_nil, List.length_nil, Nat.pow_zero, Nat.mul_one]
    rfl
  | append_singleton es c ih =>
    rw [← List.append_assoc, ofBase_append_singleton, ofBase_append_singleton, ih, List.length_append,
      List.length_singleton, Nat.pow_succ, Nat.add_mul, Nat.mul_assoc, Nat.add_assoc]

theorem ofBase_zeros (base n : Nat) : ofBase base (List.replicate n '0') = 0 := by
  induction n with
  | zero => rfl
  | succ n ih =>
    rw [List.replicate_succ', ofBase_append_singleton, ih, Nat.zero_mul]
    rfl

theorem ofDecimal_append_zeros (ds : Text) (n : Nat) :
    ofDecimal (ds ++ List.replicate n '0') = ofDecimal ds * 10 ^ n := by
  rw [ofDecimal, ofBase_append, ofBase_zeros, List.length_replicate, Nat.add_zero, ofDecimal]

theorem ofDecimal_zeros_append (n : Nat) (ds : Text) :
    ofDecimal (List.replicate n '0' ++ ds) = ofDecimal ds := by
  rw [ofDecimal, ofBase_append, ofBase_zeros, Nat.zero_mul, Nat.zero_add, ofDecimal]

/-- **The digits of a number stand for it.** -/
theorem ofDecimal_ofNat (n : Nat) : ofDecimal (Text.ofNat n) = n := by
  induction n using Nat.strongRecOn with
  | ind n ih =>
    rcases Nat.lt_or_ge n 10 with h | h
    · rw [Text.ofNat_of_lt h, ofDecimal, ofBase, List.foldl_cons, value?_digitChar (by omega)]
      exact (Nat.zero_add n)
    · rw [Text.ofNat_of_le h, ofDecimal, ofBase_append_singleton,
        value?_digitChar (by omega)]
      have hquotient : ofBase 10 (Text.ofNat (n / 10)) = n / 10 := ih (n / 10) (by omega)
      rw [hquotient, Option.getD_some]
      omega

/-! ## Digits of base sixteen -/

/-- As many digits of base sixteen as it takes stand for a number. -/
theorem ofBase_hexDigits (w n : Nat) : ofBase 16 (Text.hexDigits w n) = n % 16 ^ w := by
  induction w generalizing n with
  | zero => simp [Text.hexDigits, ofBase, Nat.mod_one]
  | succ w ih =>
    rw [Text.hexDigits, ofBase_append_singleton, ih, value?_digitChar (Nat.mod_lt n (by decide)),
      Option.getD_some, Nat.pow_succ, Nat.mul_comm (16 ^ w), Nat.mod_mul]
    omega

theorem isHex_digitChar {n : Nat} (h : n < 16) : isHex n.digitChar = true := by
  rw [isHex, isDigitOf, value?_digitChar h]
  exact decide_eq_true h

theorem all_isHex_hexDigits (w n : Nat) : (Text.hexDigits w n).all isHex = true := by
  induction w generalizing n with
  | zero => rfl
  | succ w ih =>
    rw [Text.hexDigits, List.all_append, ih, List.all_cons, isHex_digitChar (Nat.mod_lt n (by decide))]
    rfl

end Digits

namespace Text

theorem isDecimal_of_mem_ofNat {n : Nat} : ∀ c ∈ ofNat n, Digits.isDecimal c = true := by
  induction n using Nat.strongRecOn with
  | ind n ih =>
    rcases Nat.lt_or_ge n 10 with h | h
    · rw [ofNat_of_lt h]
      exact List.forall_mem_singleton.mpr (Digits.isDecimal_digitChar h)
    · rw [ofNat_of_le h, List.forall_mem_append]
      exact ⟨ih (n / 10) (by omega),
        List.forall_mem_singleton.mpr (Digits.isDecimal_digitChar (Nat.mod_lt n (by decide)))⟩

theorem head?_ofNat {n : Nat} (hn : 0 < n) : (ofNat n).head? ≠ some '0' := by
  induction n using Nat.strongRecOn with
  | ind n ih =>
    rcases Nat.lt_or_ge n 10 with h | h
    · have hdigits : ∀ i : Fin 10, 0 < i.val → (Nat.digitChar i) ≠ '0' := by decide
      rw [ofNat_of_lt h, List.head?_singleton]
      exact fun heq => hdigits ⟨n, h⟩ hn (Option.some.inj heq)
    · have hne : ofNat (n / 10) ≠ [] := List.ne_nil_of_length_pos (length_ofNat_pos _)
      rw [ofNat_of_le h, List.head?_append, Option.or_of_isSome (List.isSome_head?.mpr hne)]
      exact ih (n / 10) (by omega) (by omega)

end Text

end ThemedCss
