import ThemedCss.Text.Printable

/-!
# Quoted texts

The spelling of a text inside lists, mappings and messages: between single quotes, or between
double quotes when it holds a single quote and no double one; the quote, the backslash and every
code point that does not print are escaped.

* `Text.hexDigits`: hexadecimal digits to a fixed width;
* **`Text.quoted`**: the quoted spelling.
-/

namespace ThemedCss.Text

/-- The last `width` hexadecimal digits of a number, in small letters. -/
def hexDigits : (width : Nat) → Nat → Text
  | 0, _ => []
  | w + 1, n => hexDigits w (n / 16) ++ [Nat.digitChar (n % 16)]

/-- The spelling of one code point between two quotes. -/
def quotedChar (quote c : Char) : Text :=
  if c = quote ∨ c = '\\' then ['\\', c]
  else if c = '\n' then "\\n"
  else if c = '\r' then "\\r"
  else if c = '\t' then "\\t"
  else if isPrintable c then [c]
  else if c.toNat < 0x100 then "\\x" ++ hexDigits 2 c.toNat
  else if c.toNat < 0x10000 then "\\u" ++ hexDigits 4 c.toNat
  else "\\U" ++ hexDigits 8 c.toNat

/-- The quote that surrounds a text. -/
def quoteOf (t : Text) : Char :=
  if '\'' ∈ t ∧ ¬ '"' ∈ t then '"' else '\''

/-- The quoted spelling of a text. -/
def quoted (t : Text) : Text :=
  quoteOf t :: t.flatMap (quotedChar (quoteOf t)) ++ [quoteOf t]

end ThemedCss.Text
