import ThemedCss.Number.Shortest

/-!
# Written numbers

How a double is written: the fewest digits that read back, positionally where the point is near
them and with an exponent elsewhere.

* `Double.Spelling`: the words for the infinities and for what is no number;
* **`Double.write`**: positional from `10 ^ (-4)` up to below `10 ^ 16`, always with a fraction;
  beyond that an exponent with its sign and at least two digits.
-/

namespace ThemedCss.Double

/-- The words for the numbers without digits. -/
structure Spelling where
  infinity : Text
  nan : Text

/-- The words that a value shows as text. -/
def Spelling.plain : Spelling := ⟨"inf", "nan"⟩

/-- The words of the data format of cache keys and source files. -/
def Spelling.json : Spelling := ⟨"Infinity", "NaN"⟩

/-- A digit string without its last zeros, with how many were cut. -/
def cutZeros (digits : Text) : Text × Nat :=
  let kept := (digits.reverse.dropWhile (· == '0')).reverse
  (kept, digits.length - kept.length)

/-- Digits with a point before the place `p`, which counts from the first digit. -/
def positional (digits : Text) (p : Int) : Text :=
  if p ≤ 0 then "0." ++ List.replicate (-p).toNat '0' ++ digits
  else if digits.length ≤ p.toNat then
    digits ++ List.replicate (p.toNat - digits.length) '0' ++ ".0"
  else digits.take p.toNat ++ "." ++ digits.drop p.toNat

/-- Digits with a point after the first one, and the exponent of ten. -/
def scientific (digits : Text) (e : Int) : Text :=
  let places := Text.ofNat e.natAbs
  let point : Text := if digits.length ≤ 1 then [] else "."
  digits.take 1 ++ point ++ digits.drop 1 ++ "e" ++ (if e < 0 then "-" else "+") ++
    List.replicate (2 - places.length) '0' ++ places

/-- The written form of a double. -/
def write (words : Spelling) : Double → Text
  | nan => words.nan
  | infinite s => (if s then "-" else "" : Text) ++ words.infinity
  | finite s m k =>
    let sign : Text := if s then "-" else ""
    if m = 0 then sign ++ "0.0"
    else
      let (q, e) := shortest m k
      let (digits, cut) := cutZeros (Text.ofNat q)
      let p : Int := digits.length + e + cut
      sign ++ if -4 < p ∧ p ≤ 16 then positional digits p else scientific digits (p - 1)

end ThemedCss.Double
