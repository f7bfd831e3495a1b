import ThemedCss.Text

/-!
# Digits

* `Digits.value?`: the number that one digit stands for in bases up to 36;
* `Digits.ofBase`: the number that a run of digits stands for;
* `Digits.isDecimal`, `Digits.isHex`: the digits of two bases;
* `Digits.upTo`, `Digits.exactly`: decimal digits at the front of a text.
-/

namespace ThemedCss.Digits

/-- The number that a digit stands for; letters of either case follow `9`. -/
def value? (c : Char) : Option Nat :=
  if '0' ≤ c ∧ c ≤ '9' then some (c.toNat - 48)
  else if 'a' ≤ c ∧ c ≤ 'z' then some (c.toNat - 87)
  else if 'A' ≤ c ∧ c ≤ 'Z' then some (c.toNat - 55)
  else none

/-- Whether a code point is a digit of a base. -/
def isDigitOf (base : Nat) (c : Char) : Bool :=
  match value? c with
  | some n => n < base
  | none => false

/-- A digit of base ten. -/
def isDecimal (c : Char) : Bool := isDigitOf 10 c

/-- A digit of base sixteen. -/
def isHex (c : Char) : Bool := isDigitOf 16 c

/-- The number that a run of digits stands for in a base. -/
def ofBase (base : Nat) (digits : Text) : Nat :=
  digits.foldl (fun n c => n * base + (value? c).getD 0) 0

/-- The number that a run of decimal digits stands for. -/
def ofDecimal (digits : Text) : Nat := ofBase 10 digits

/-- One decimal digit or more, up to a number of them, and the text behind them. -/
def upTo (n : Nat) (t : Text) : Option (Text × Text) :=
  let digits := (t.take n).takeWhile isDecimal
  if digits = [] then none else some (digits, t.drop digits.length)

/-- The number that some decimal digits at the front of a text stand for, and the text behind
them. -/
def exactly (n : Nat) (t : Text) : Option (Nat × Text) :=
  let digits := t.take n
  if digits.length = n ∧ digits.all isDecimal then some (ofDecimal digits, t.drop n) else none

/-- One more digit behind a run of digits. -/
theorem ofBase_append_singleton (base : Nat) (digits : Text) (c : Char) :
    ofBase base (digits ++ [c]) = ofBase base digits * base + (value? c).getD 0 := by
  simp [ofBase]

end ThemedCss.Digits
