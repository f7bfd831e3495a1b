import ThemedCss.Text.Blank
import ThemedCss.Text.Kebab
import ThemedCss.Theme

/-!
# At-rules

* `AtRule.name`: the first word of an at-rule's header, in small letters;
* `AtRule.isStatement`: the at-rules whose body no surrounding selector scopes;
* `AtRule.colorScheme`: the header of a colour-scheme query;
* `AtRule.header?`: the header that a key stands for.
-/

namespace ThemedCss.AtRule

/-- The small form of a letter whose small form is one of `a` to `z`: the capitals, and the Kelvin
sign. -/
def fold (c : Char) : Char := if c = '\u212a' then 'k' else Text.smallLetter c

/-- The first word of a header, in small letters. -/
def name (header : Text) : Text := (Text.firstWord header).map fold

/-- The at-rules that a surrounding selector does not scope. -/
def statements : List Text :=
  ["@font-face", "@keyframes", "@-webkit-keyframes", "@page", "@property", "@counter-style",
    "@font-feature-values", "@font-palette-values", "@view-transition"]

/-- Whether the body of an at-rule stands on its own under any selector. -/
def isStatement (header : Text) : Bool := statements.contains (name header)

/-- Whether a key is the header of an at-rule. -/
def isHeader (key : Text) : Bool := key.head? = some '@'

/-- The header of the query for a colour scheme. -/
def colorScheme (scheme : Text) : Text := "@media (prefers-color-scheme: " ++ scheme ++ ")"

/-- The header that a key stands for: its own, or that of the colour scheme which it names. -/
def header? (themeKeys : ThemeKeys) (key : Text) : Option Text :=
  if isHeader key then some key
  else if themeKeys = .scope ∧ (Mode.ofThemeKey? key).isSome then some (colorScheme key)
  else none

end ThemedCss.AtRule
