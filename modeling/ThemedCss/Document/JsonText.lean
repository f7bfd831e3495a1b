import ThemedCss.Text.Quoted

/-!
# Texts in JSON

* `Json.escape`: the spelling of a code point between the quotes;
* **`Json.quote`**: a quoted text, with other than ASCII code points as they are or escaped;
* `Json.indented`: a mapping of texts on lines of its own.
-/

namespace ThemedCss.Json

/-- Which code points a quoted text shows as they are. -/
inductive Charset
  /-- All that need no escape. -/
  | unicode
  /-- Those from the space to the tilde, of these. -/
  | ascii
  deriving DecidableEq

/-- The escape of a number of sixteen bits. -/
def unit (n : Nat) : Text := "\\u" ++ Text.hexDigits 4 n

/-- The escape of a code point by number: two surrogates stand for one that needs more than
sixteen bits. -/
def numeric (c : Char) : Text :=
  let n := c.toNat
  if n < 0x10000 then unit n
  else unit (0xd800 + (n - 0x10000) / 0x400) ++ unit (0xdc00 + (n - 0x10000) % 0x400)

/-- The spelling of a code point between two quotes. -/
def escape (charset : Charset) (c : Char) : Text :=
  if c = '"' then "\\\""
  else if c = '\\' then "\\\\"
  else if c = '\n' then "\\n"
  else if c = '\r' then "\\r"
  else if c = '\t' then "\\t"
  else if c = '\x0c' then "\\f"
  else if c = '\x08' then "\\b"
  else if c.toNat < 0x20 ∨ (charset = .ascii ∧ 0x7e < c.toNat) then numeric c
  else [c]

/-- A text between quotes. -/
def quote (charset : Charset) (t : Text) : Text := '"' :: t.flatMap (escape charset) ++ ['"']

/-- An entry of a mapping on a line of its own. -/
def entryLine (indent : Text) (key value : Text) : Text :=
  indent ++ "  " ++ quote .ascii key ++ ": " ++ value

/-- A mapping of written values, with each entry on a line of its own. -/
def indented (indent : Text) (entries : List (Text × Text)) : Text :=
  if entries.isEmpty then "\x7b\x7d"
  else
    let body : List Text := entries.map fun (key, value) => entryLine indent key value
    "\x7b\n" ++ List.intercalate ",\n" body ++ "\n" ++ indent ++ "\x7d"

end ThemedCss.Json
