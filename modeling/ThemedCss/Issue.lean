import ThemedCss.Value

/-!
# Issues

What is wrong with the fields of a mapping that settings or an entry of a source are read from.

* `Problem`: what is wrong with a value;
* `Issue`: a problem and where it is;
* `Checked`: something read, or all the issues that were found.
-/

namespace ThemedCss

/-- What is wrong with a value. -/
inductive Problem
  | notMapping
  | notList
  | notText
  /-- Bytes that spell no text. -/
  | notSpelled
  /-- Neither an integer nor anything that can stand for one. -/
  | notInteger
  /-- A text that is no integer. -/
  | unreadableInteger
  /-- An integer that is too large to be read. -/
  | oversizedInteger
  /-- A number with a fraction. -/
  | fractional
  /-- An infinity, or no number at all. -/
  | notFinite
  /-- A number below one. -/
  | belowOne
  /-- Neither a truth value nor anything that can stand for one. -/
  | notFlag
  /-- A text or an integer that stands for no truth value. -/
  | unreadableFlag
  /-- None of the names that can be chosen. -/
  | notChoice
  /-- A field that there is not. -/
  | unknownField
  deriving DecidableEq

/-- A problem, and the keys that lead to it. -/
structure Issue where
  location : List Text
  problem : Problem
  deriving DecidableEq

/-- Something read, or the issues that were found. -/
abbrev Checked (α : Type) := Except (List Issue) α

/-- The issues that were found. -/
def Checked.issues {α : Type} : Checked α → List Issue
  | .ok _ => []
  | .error found => found

end ThemedCss
