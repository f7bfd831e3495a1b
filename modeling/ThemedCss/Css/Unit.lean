import ThemedCss.Value.Property

/-!
# Units

Values with a unit, for use in styles and themes.

* `CssUnit`, `CssUnit.symbol`;
* **`CssUnit.write`**: each value with the unit behind it, and a space between values.
-/

namespace ThemedCss

/-- A unit of style sheets. -/
inductive CssUnit
  | px
  | rem
  | em
  | percent
  | vw
  | vh
  | vmin
  | vmax
  | ch
  | ex
  | fr
  | deg
  | ms
  | s
  deriving DecidableEq

namespace CssUnit

/-- The symbol of a unit. -/
def symbol : CssUnit → Text
  | px => "px"
  | rem => "rem"
  | em => "em"
  | percent => "%"
  | vw => "vw"
  | vh => "vh"
  | vmin => "vmin"
  | vmax => "vmax"
  | ch => "ch"
  | ex => "ex"
  | fr => "fr"
  | deg => "deg"
  | ms => "ms"
  | s => "s"

/-- Values with a unit; a value without a text shows as null does. -/
def write (unit : CssUnit) (values : List Value) : Text :=
  List.intercalate " " (values.map fun v => v.css?.getD v.display ++ unit.symbol)

end CssUnit

end ThemedCss
