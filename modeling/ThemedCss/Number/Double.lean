import ThemedCss.Text

/-!
# Double-precision numbers

The binary numbers with 53 significant bits and the exponents of the 64-bit format, as exact
integers; nothing here is computed with machine arithmetic.

* `Double`: not a number, an infinity, or a signed multiple of a power of two;
* `Double.ofRatio`, `Double.ofDecimal`: the double nearest to a fraction or to a decimal, a tie
  going to the even significand;
* `Double.add`, `Double.mul`: rounded sums and products;
* `Double.integer?`: the value as an integer, when it is one.
-/

namespace ThemedCss

/-- A double-precision number. `finite s m k` stands for `± m · 2 ^ (k - 1074)`; it is normalised
when `k = 0` or `2 ^ 52 ≤ m`, and `m < 2 ^ 53`. -/
inductive Double
  | nan
  | infinite (negative : Bool)
  | finite (negative : Bool) (significand : Nat) (scale : Nat)
  deriving DecidableEq

namespace Double

/-- The quotient rounded to the nearest natural number, a half going to the even one. -/
def roundDiv (n d : Nat) : Nat :=
  let q := n / d
  let r := n % d
  if 2 * r < d then q else if d < 2 * r then q + 1 else q + q % 2

/-- The least `k` for which `n / d` in units of `2 ^ k` stays below `2 ^ 53`. -/
def scaleOf (n d : Nat) : Nat :=
  let k := n.log2 - d.log2 - 53
  if d * Nat.pow 2 (k + 53) ≤ n then k + 1 else k

/-- The largest scale of a finite double. -/
def maxScale : Nat := 2045

/-- The double nearest to the fraction `n / d`. -/
def ofRatio (negative : Bool) (n d : Nat) : Double :=
  let k := scaleOf (n * Nat.pow 2 1074) d
  let m := roundDiv (n * Nat.pow 2 1074) (d * Nat.pow 2 k)
  let (m, k) := if m = Nat.pow 2 53 then (Nat.pow 2 52, k + 1) else (m, k)
  if k ≤ maxScale then finite negative m k else infinite negative

/-- The double nearest to `m · 10 ^ e`. Beyond 400 places on either side of the point no digit can
matter. -/
def ofDecimal (negative : Bool) (m : Nat) (e : Int) : Double :=
  let magnitude := (Text.ofNat m).length + e
  if m = 0 ∨ magnitude < -400 then finite negative 0 0
  else if 400 < magnitude then infinite negative
  else if 0 ≤ e then ofRatio negative (m * Nat.pow 10 e.toNat) 1
  else ofRatio negative m (Nat.pow 10 (-e).toNat)

/-- The numerator of the magnitude of a finite double over the denominator `2 ^ 1074`. -/
def numerator (m k : Nat) : Nat := m * Nat.pow 2 k

/-- The denominator of every magnitude. -/
def denominator : Nat := Nat.pow 2 1074

/-- A sign and a magnitude as an integer over the denominator of every magnitude. -/
def signed (negative : Bool) (m k : Nat) : Int :=
  if negative then -(numerator m k : Int) else numerator m k

/-- The double nearest to the sum of two numbers. -/
def add : Double → Double → Double
  | finite s m k, finite s' m' k' =>
    let n := signed s m k + signed s' m' k'
    if n = 0 then finite (s && s') 0 0 else ofRatio (n < 0) n.natAbs denominator
  | infinite s, infinite s' => if s = s' then infinite s else nan
  | infinite s, finite .. => infinite s
  | finite .., infinite s => infinite s
  | _, _ => nan

/-- The double nearest to the product of two numbers. -/
def mul : Double → Double → Double
  | finite s m k, finite s' m' k' =>
    if m * m' = 0 then finite (s != s') 0 0
    else ofRatio (s != s') (numerator m k * numerator m' k') (denominator * denominator)
  | infinite s, infinite s' => infinite (s != s')
  | infinite s, finite s' m _ => if m = 0 then nan else infinite (s != s')
  | finite s m _, infinite s' => if m = 0 then nan else infinite (s != s')
  | _, _ => nan

/-- The number with the other sign. -/
def negate : Double → Double
  | finite s m k => finite (!s) m k
  | infinite s => infinite (!s)
  | nan => nan

/-- The value as an integer, when it is one. -/
def integer? : Double → Option Int
  | finite s m k =>
    if numerator m k % denominator = 0 then
      let n : Int := Int.ofNat (numerator m k / denominator)
      some (if s then -n else n)
    else none
  | _ => none

/-- The largest integer that is not above the value, when it is finite. -/
def floor? : Double → Option Int
  | finite s m k => some ((signed s m k).fdiv denominator)
  | _ => none

/-- The double nearest to an integer. -/
def ofInt (n : Int) : Double := ofRatio (n < 0) n.natAbs 1

/-- Whether the number is a zero of either sign. -/
def isZero : Double → Bool
  | finite _ m _ => m = 0
  | _ => false

end Double

end ThemedCss
