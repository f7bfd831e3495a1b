import ThemedCss.Document.Yaml.Tag
import ThemedCss.Number.FreeForm
import ThemedCss.Text.SmallForm

/-!
# Numbers of YAML documents

What texts stand for that are numbers by their form or by their tag; underscores in them say
nothing.

* `Yaml.signed`: a sign, and the text behind it;
* **`Yaml.integerOf`**: integers of four bases, and integers in parts of sixty;
* **`Yaml.floatOf`**: numbers with a point, in parts of sixty too, and the words for numbers
  without digits;
* `Yaml.isWordOfNone`: the word for what is no number.
-/

namespace ThemedCss.Yaml

/-- Whether a number has a minus sign, and its text behind a sign. -/
def signed (t : Text) : Except Fault (Bool × Text) :=
  match t.filter (· ≠ '_') with
  | [] => .error .missingNumber
  | '-' :: t => .ok (true, t)
  | '+' :: t => .ok (false, t)
  | t => .ok (false, t)

/-- The parts of a number in parts of sixty. -/
def parts (t : Text) : List Text := t.splitOnP (· = ':')

/-- Integers that each count sixty of the next, as one. -/
def ofSixties (ns : List Int) : Int := ns.foldl (fun n part => n * 60 + part) 0

/-- An integer without its sign. -/
def magnitudeOf : Text → Except Fault Int
  | [] => .error .missingNumber
  | '0' :: 'b' :: digits => FreeForm.integer 2 digits
  | '0' :: 'x' :: digits => FreeForm.integer 16 digits
  | '0' :: digits => if digits = [] then .ok 0 else FreeForm.integer 8 ('0' :: digits)
  | t =>
    if ':' ∈ t then ofSixties <$> (parts t).mapM (FreeForm.integer 10)
    else FreeForm.integer 10 t

/-- The integer that a text stands for. -/
def integerOf (t : Text) : Except Fault Int := do
  let (negative, unsigned) ← signed t
  let n ← magnitudeOf unsigned
  return if negative then -n else n

/-- How many units a part counts, by the number of parts behind it; no double holds those in front
of too many others. -/
def unitsOf (place : Nat) : Except Fault Double :=
  match Double.ofInt (Int.pow 60 place) with
  | .infinite _ => .error .oversized
  | units => .ok units

/-- Doubles that each count sixty of the next, as one. They are added from behind, and every
product and every sum is rounded. -/
def sumOfSixties (xs : List Double) : Except Fault Double :=
  (xs.reverse.zipIdx).foldlM (fun sum (x, place) => do return sum.add (x.mul (← unitsOf place)))
    (.finite false 0 0)

/-- A number with a point without its sign. -/
def fractionOf (t : Text) : Except Fault Double :=
  if t = (".inf" : Text) then .ok (.infinite false)
  else if t = (".nan" : Text) then .ok .nan
  else if ':' ∈ t then (parts t).mapM FreeForm.number >>= sumOfSixties
  else FreeForm.number t

/-- The double that a text stands for. -/
def floatOf (t : Text) : Except Fault Double := do
  let (negative, unsigned) ← signed t
  let x ← fractionOf (Text.small unsigned)
  return if negative then x.negate else x

/-- Whether a text is the word for what is no number. -/
def isWordOfNone (t : Text) : Bool :=
  match signed t with
  | .ok (_, unsigned) => Text.small unsigned = (".nan" : Text)
  | .error _ => false

end ThemedCss.Yaml
