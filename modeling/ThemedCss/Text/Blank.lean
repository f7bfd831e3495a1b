import ThemedCss.Text

/-!
# Blank space

The code points that count as white space: the Unicode property, or this together with the four
information separators.

* `Text.isBlank`, `Text.strip`, `Text.firstWord`, `Text.words`: with the separators;
* `Text.isSpace`, `Text.trim`: without them;
* `Text.isBlank_of_isWhitespace`: the class contains the ASCII one of the core library.
-/

namespace ThemedCss.Text

/-- White space: tab to carriage return, the information separators, the space, the next-line
control and the spaces and separators of Unicode. The zero-width space is none. -/
def isBlank (c : Char) : Bool :=
  let n := c.toNat
  (9 ≤ n && n ≤ 13) || (28 ≤ n && n ≤ 32) || n == 0x85 || n == 0xa0 || n == 0x1680 ||
    (0x2000 ≤ n && n ≤ 0x200a) || n == 0x2028 || n == 0x2029 || n == 0x202f || n == 0x205f ||
    n == 0x3000

theorem isBlank_of_isWhitespace (c : Char) (h : c.isWhitespace = true) : isBlank c = true := by
  simp only [Char.isWhitespace, Bool.or_eq_true, decide_eq_true_eq] at h
  rcases h with ((rfl | rfl) | rfl) | rfl <;> decide

/-- The text from its first code point that is not blank. -/
def stripLeft (t : Text) : Text := t.dropWhile isBlank

/-- The text up to its last code point that is not blank. -/
def stripRight (t : Text) : Text := (t.reverse.dropWhile isBlank).reverse

/-- The text without blanks at its two ends. -/
def strip (t : Text) : Text := stripRight (stripLeft t)

/-- White space as the Unicode property has it: the information separators are none. -/
def isSpace (c : Char) : Bool := isBlank c && !(28 ≤ c.toNat && c.toNat ≤ 31)

/-- The text without white space of Unicode at its two ends. -/
def trim (t : Text) : Text := ((t.dropWhile isSpace).reverse.dropWhile isSpace).reverse

/-- The first run of code points that are not blank. -/
def firstWord (t : Text) : Text := (stripLeft t).takeWhile fun c => !isBlank c

/-- What stands between the blanks of a text, be it nothing. -/
def betweenBlanks : Text → List Text
  | [] => [[]]
  | c :: t => if isBlank c then [] :: betweenBlanks t else consHead c (betweenBlanks t)

/-- The runs of code points that are not blank. -/
def words (t : Text) : List Text := (betweenBlanks t).filter (· ≠ [])

end ThemedCss.Text
