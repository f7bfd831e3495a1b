import ThemedCss.Text

/-!
# Kebab case

Property names are written in camel case in a style tree and in kebab case in a style sheet.

* `Text.smallLetter`: the small form of the letters `A` to `Z`;
* **`Text.kebab`**: each capital becomes a hyphen and its small letter; a vendor's name in front
  of a capital gets a hyphen of its own; a custom property is left as it is.
-/

namespace ThemedCss.Text

/-- A capital letter of the Latin alphabet, without accents. -/
def isCapital (c : Char) : Bool := 'A' ≤ c && c ≤ 'Z'

/-- The small form of the letters `A` to `Z`; any other code point stays. -/
def smallLetter (c : Char) : Char := if isCapital c then Char.ofNat (c.toNat + 32) else c

/-- Whether a name starts with one of the vendors' names, followed by a capital. -/
def startsWithVendor (name : Text) : Bool :=
  (["ms", "moz", "webkit"] : List Text).any fun vendor =>
    match vendor.isPrefixOf? name with
    | some (c :: _) => isCapital c
    | _ => false

/-- Each capital as a hyphen and its small letter. -/
def hyphenate (name : Text) : Text :=
  name.flatMap fun c => if isCapital c then ['-', smallLetter c] else [c]

/-- The kebab case of a camel case name. -/
def kebab (name : Text) : Text :=
  if ("--" : Text).isPrefixOf name then name
  else if startsWithVendor name then '-' :: hyphenate name
  else hyphenate name

end ThemedCss.Text
