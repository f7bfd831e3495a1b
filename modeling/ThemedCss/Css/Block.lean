import ThemedCss.Text

/-!
# Blocks

The lines of a block: its header with an opening brace, what stands in it, and a closing brace.

* `Block.opening`, `Block.closing`, `Block.isBrace`;
* `Block.declaration`: a name and a value;
* **`Block.lines`**, `Block.write`: a block as lines, and as a text.
-/

namespace ThemedCss.Block

/-- Whether a code point is a brace. -/
def isBrace (c : Char) : Bool := c = '\x7b' || c = '\x7d'

/-- The line that opens a block; without a header it is the brace alone. -/
def opening (header : Text) : Text := if header = [] then "\x7b" else header ++ " \x7b"

/-- The line that closes a block. -/
def closing : Text := "\x7d"

/-- The line of a declaration. -/
def declaration (indent name value : Text) : Text := indent ++ name ++ ": " ++ value ++ ";"

/-- The lines of a block. -/
def lines (header : Text) (body : List Text) : List Text := opening header :: body ++ [closing]

/-- The text of a block. -/
def write (header : Text) (body : List Text) : Text := Text.unlines (lines header body)

end ThemedCss.Block
