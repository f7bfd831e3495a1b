import ThemedCss.Style.Parent
import ThemedCss.Value.Format
import ThemedCss.Variable.Name

/-!
# Pieces of rules

The functions that make selectors, names and property values, as calls with values of any kind.

* `Piece`: what such a call gives;
* **`PieceFunction.call`**: the piece of a call, or why the arguments do not fit.
-/

namespace ThemedCss

/-- A piece of a rule. -/
inductive Piece
  | text (t : Text)
  | texts (ts : List Text)
  | truth (b : Bool)
  /-- What is left out. -/
  | nothing

/-- A function that makes pieces of rules. -/
inductive PieceFunction
  /-- The selector of a key below a parent. -/
  | selector
  /-- The parts of a selector list. -/
  | selectorList
  /-- The name of a property. -/
  | propertyName
  /-- The text of a property value. -/
  | propertyValue
  /-- Whether a value is that of a property. -/
  | isProperty
  /-- A part of the name of a custom property. -/
  | segment
  /-- The name of a custom property. -/
  | customProperty
  deriving DecidableEq

/-- The piece of a call. -/
def PieceFunction.call : PieceFunction → List Value → Except Fault Piece
  | selector, [key, parent] => do return .text (← Selector.createBelow (← key.asText) parent)
  | selectorList, [v] => .texts <$> Selector.splitValue v
  | propertyName, [v] => (fun name => .text (Text.kebab name)) <$> v.asText
  | propertyValue, [v] => (fun text => text.elim .nothing .text) <$> v.format
  | isProperty, [v] => (fun style => .truth style.isProperty) <$> Style.ofValue v
  | segment, [v] => .ok (.text (Variable.segment v.display))
  | customProperty, [v] => (fun path => .text (Variable.name path)) <$> v.texts
  | _, _ => .error .argument

end ThemedCss
