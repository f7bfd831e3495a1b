import ThemedCss.Fault
import ThemedCss.Number.Decimal

/-!
# Numbers in free form

Texts that are meant to be numbers: blanks may stand around them, a sign in front of them, and
their decimal digits may be those of any script.

* `FreeForm.integer`: an integer of a base, which may be spelled out in front of the digits;
* **`FreeForm.number`**: a number with a point and an exponent, or a word for one without digits.
-/

namespace ThemedCss.FreeForm

/-- The sign of a text, and the text behind it with plain digits and without blanks. -/
def signed (t : Text) : Bool × Text := Decimal.sign ((Text.trim t).map Text.asciiDigit)

/-- The letter that spells out a base. -/
def baseLetter? : Nat → Option Char
  | 2 => some 'b'
  | 8 => some 'o'
  | 16 => some 'x'
  | _ => none

/-- A text without the zero and the letter that spell out its base. -/
def withoutBase (base : Nat) : Text → Text
  | '0' :: c :: t => if baseLetter? base = some (Text.smallLetter c) then t else '0' :: c :: t
  | t => t

/-- An integer of a base. In base ten the number of digits is limited. -/
def integer (base : Nat) (t : Text) : Except Fault Int :=
  let (negative, unsigned) := signed t
  let body := withoutBase base unsigned
  let digits := body.takeWhile (Digits.isDigitOf base)
  if base = 10 ∧ Fault.maxDigits < digits.length then .error (.tooManyDigits (some digits.length))
  else if digits = [] ∨ digits ≠ body then .error (.unreadableInteger base t)
  else
    let n : Int := Digits.ofBase base digits
    .ok (if negative then -n else n)

/-- A number with a point and an exponent, or a word for an infinity or for what is no number. -/
def number (t : Text) : Except Fault Double :=
  let (negative, body) := signed t
  let word := body.map Text.smallLetter
  if Decimal.isInfinity word then .ok (.infinite negative)
  else if word = ("nan" : Text) then .ok .nan
  else match Decimal.unsigned? body with
    | some (n, e) => .ok (.ofDecimal negative n e)
    | none => .error (.unreadableNumber t)

end ThemedCss.FreeForm
