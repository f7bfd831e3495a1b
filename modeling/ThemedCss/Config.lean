import ThemedCss.Sheet.Assemble

/-!
# Settings

* `Config`: the settings of a session, with their defaults.
-/

namespace ThemedCss

/-- The settings of a session. -/
structure Config where
  /-- The number of uses from which a fallback is hoisted. -/
  hoistThreshold : Nat := 3
  /-- The media query around the variables of the dark mode. -/
  darkMediaQuery : Text := Sheet.darkQuery
  /-- How theme keys are read in component variables. -/
  varsThemeKeys : ThemeKeys := .scope
  /-- How theme keys are read in style trees. -/
  styleThemeKeys : ThemeKeys := .literal
  /-- Whether rules with one body are merged. -/
  dedupe : Bool := true
  /-- What declarations are indented by. -/
  indent : Text := "  "
  /-- The largest number of cached style sheets, if there is one. -/
  cacheMaxEntries : Option Nat := none
  deriving DecidableEq

end ThemedCss
