import ThemedCss.Fault
import ThemedCss.Value

/-!
# Decimals from values

A decimal is given by its text, by a number, or by its parts: a sign, digits, and an exponent or a
letter for what has none.

* `Decimal.signOf`, `Decimal.digitsOf`: the parts from values;
* `Decimal.ofParts`: a decimal from its parts;
* **`Decimal.ofValue`**: a decimal from a value.
-/

namespace ThemedCss.Decimal

/-- The integer that a value is; truth values count as 0 and 1. -/
def integer? : Value → Option Int
  | .scalar (.int n) => some n
  | .scalar (.bool b) => some b.toInt
  | _ => none

/-- An integer of machine size. -/
def machineInteger (wrong : Part) (v : Value) : Except Fault Int :=
  match integer? v with
  | none => .error (.notDecimal wrong)
  | some n => if -Int.pow 2 63 ≤ n ∧ n < Int.pow 2 63 then .ok n else .error .oversized

/-- Whether a sign is a minus. -/
def signOf (v : Value) : Except Fault Bool := do
  match ← machineInteger .sign v with
  | 0 => return false
  | 1 => return true
  | _ => .error (.notDecimal .sign)

/-- A digit. -/
def digitOf (v : Value) : Except Fault Nat := do
  let n ← machineInteger .digits v
  if 0 ≤ n ∧ n ≤ 9 then return n.toNat else .error (.notDecimal .digits)

/-- The number that a list of digits is. -/
def digitsOf : Value → Except Fault Nat
  | .list items => do return (← items.mapM digitOf).foldl (fun n d => 10 * n + d) 0
  | _ => .error (.notDecimal .digits)

/-- What stands in the place of an exponent: the exponent, or a letter for what has none. -/
def exponentOf : Value → Except Fault (Sum Int Char)
  | .scalar (.text [c]) =>
    if c = 'F' ∨ c = 'n' ∨ c = 'N' then .ok (.inr c) else .error (.notDecimal .letter)
  | .scalar (.text _) => .error (.notDecimal .letter)
  | v => .inl <$> machineInteger .exponent v

/-- A decimal from its parts. The digits of an infinity do not count. -/
def ofParts (sign digits exponent : Value) : Except Fault Decimal := do
  let negative ← signOf sign
  let place ← exponentOf exponent
  let n ← digitsOf digits
  match place with
  | .inr 'F' => return infinite negative
  | .inr c => return nan negative (c == 'N') n
  | .inl e => (inRange? negative n e).elim (.error .unreadableDecimal) .ok

/-- A decimal from a value. -/
def ofValue : Value → Except Fault Decimal
  | .scalar (.text t) => (read? t).elim (.error .unreadableDecimal) .ok
  | .scalar (.bool b) => .ok (ofInt b.toInt)
  | .scalar (.int n) => .ok (ofInt n)
  | .scalar (.float x) => .ok (ofDouble x)
  | .list [sign, digits, exponent] => ofParts sign digits exponent
  | .list _ => .error (.notDecimal .parts)
  | _ => .error .argument

end ThemedCss.Decimal
