import ThemedCss.Document.Digits
import ThemedCss.Number.Double
import ThemedCss.Text.Blank
import ThemedCss.Text.DecimalDigit
import ThemedCss.Text.Kebab

/-!
# Decimal numbers

Decimals that keep the digits that they were written with.

* `Decimal`: a sign, digits and a power of ten, or one of the numbers without digits;
* `Decimal.unsigned?`, `Decimal.read?`: a decimal from its text;
* `Decimal.ofInt`, `Decimal.ofDouble`: integers and doubles as decimals, which lose nothing;
* `Decimal.Part`: what a decimal is put together from;
* **`Decimal.write`**: positional when no zeros have to be put behind the digits and at most five
  in front of them; otherwise with an exponent behind the first digit.
-/

namespace ThemedCss

/-- A decimal number: `± coefficient · 10 ^ exponent`. What is no number may carry a payload, and
may be one that no computation accepts. -/
inductive Decimal
  | finite (negative : Bool) (coefficient : Nat) (exponent : Int)
  | infinite (negative : Bool)
  | nan (negative signaling : Bool) (payload : Nat)
  deriving DecidableEq

namespace Decimal

/-- What a decimal is put together from. -/
inductive Part
  /-- The parts as a whole. -/
  | parts
  | sign
  | digits
  | exponent
  /-- A letter in the place of the exponent. -/
  | letter
  deriving DecidableEq

/-- What is expected of a part. -/
def Part.message : Part → Text
  | parts => "argument must be a sequence of length 3"
  | sign => "sign must be an integer with the value 0 or 1"
  | digits => "coefficient must be a tuple of digits"
  | exponent => "exponent must be an integer"
  | letter => "string argument in the third position must be 'F', 'n' or 'N'"

/-! ## Reading -/

/-- A sign or none, and the rest. -/
def sign : Text → Bool × Text
  | '-' :: t => (true, t)
  | '+' :: t => (false, t)
  | t => (false, t)

/-- An exponent behind its letter, or nothing. -/
def exponent? : Text → Option Int
  | [] => some 0
  | c :: t =>
    let (negative, ds) := sign t
    if (c = 'e' ∨ c = 'E') ∧ ds ≠ [] ∧ ds.all Digits.isDecimal then
      some (if negative then -(Digits.ofDecimal ds : Int) else Digits.ofDecimal ds)
    else none

/-- The coefficient and the exponent of digits with a point and an exponent. -/
def unsigned? (t : Text) : Option (Nat × Int) :=
  let whole := t.takeWhile Digits.isDecimal
  let rest := t.dropWhile Digits.isDecimal
  let (fraction, rest) := match rest with
    | '.' :: r => (r.takeWhile Digits.isDecimal, r.dropWhile Digits.isDecimal)
    | r => ([], r)
  if whole ++ fraction = [] then none
  else (exponent? rest).map fun e => (Digits.ofDecimal (whole ++ fraction), e - fraction.length)

/-- Whether some words stand for an infinity, in small letters. -/
def isInfinity (word : Text) : Bool := word = ("inf" : Text) || word = ("infinity" : Text)

/-- What is no number, with the digits of its payload. -/
def nan? (negative : Bool) (word : Text) : Option Decimal :=
  let (signaling, behind) := match ("snan" : Text).isPrefixOf? word with
    | some digits => (true, some digits)
    | none => (false, ("nan" : Text).isPrefixOf? word)
  match behind with
  | some digits =>
    if digits.all Digits.isDecimal then some (nan negative signaling (Digits.ofDecimal digits))
    else none
  | none => none

/-- The largest place of a digit. -/
def maxPlace : Int := 999999999999999999

/-- The smallest exponent. -/
def minExponent : Int := -1999999999999999997

/-- The decimal with a coefficient and an exponent, if it is not out of range. -/
def inRange? (negative : Bool) (coefficient : Nat) (exponent : Int) : Option Decimal :=
  if minExponent ≤ exponent ∧ exponent + (Text.ofNat coefficient).length - 1 ≤ maxPlace then
    some (finite negative coefficient exponent)
  else none

/-- A decimal from its text: blanks around it and underscores in it do no harm, and the digits may
be those of any script. -/
def read? (t : Text) : Option Decimal :=
  let (negative, body) := sign (((Text.strip t).filter (· ≠ '_')).map Text.asciiDigit)
  let word := body.map Text.smallLetter
  if isInfinity word then some (infinite negative)
  else match nan? negative word with
    | some d => some d
    | none => (unsigned? body).bind fun (n, e) => inRange? negative n e

/-! ## Other numbers -/

/-- An integer as a decimal. -/
def ofInt (n : Int) : Decimal := finite (n < 0) n.natAbs 0

/-- A double as a decimal: the denominator is a power of two, so it divides a power of ten. -/
def ofDouble : Double → Decimal
  | .nan => nan false false 0
  | .infinite s => infinite s
  | .finite s m k =>
    let n := Double.numerator m k
    let common := n.gcd Double.denominator
    let twos := (Double.denominator / common).log2
    finite s (n / common * Nat.pow 5 twos) (-twos)

/-! ## Writing -/

/-- An integer with its sign, be it a plus. -/
def signed (n : Int) : Text := if n < 0 then Text.ofInt n else '+' :: Text.ofInt n

/-- The text of a decimal without its sign. -/
def magnitude : Decimal → Text
  | nan _ signaling payload =>
    (if signaling then "sNaN" else "NaN" : Text) ++
      (if payload = 0 then [] else Text.ofNat payload)
  | infinite _ => "Infinity"
  | finite _ n e =>
    let digits := Text.ofNat n
    let left : Int := digits.length + e
    let point : Int := if e ≤ 0 ∧ -6 < left then left else 1
    let body : Text :=
      if point ≤ 0 then "0." ++ List.replicate (-point).toNat '0' ++ digits
      else if digits.length ≤ point.toNat then digits
      else digits.take point.toNat ++ "." ++ digits.drop point.toNat
    let power : Text := if left = point then [] else 'E' :: signed (left - point)
    body ++ power

/-- Whether a decimal has a minus sign. -/
def isNegative : Decimal → Bool
  | finite s .. => s
  | infinite s => s
  | nan s .. => s

/-- The text of a decimal. -/
def write (d : Decimal) : Text := (if d.isNegative then "-" else "" : Text) ++ d.magnitude

end Decimal

end ThemedCss
