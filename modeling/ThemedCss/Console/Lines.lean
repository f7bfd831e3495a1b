import ThemedCss.Console.Width
import ThemedCss.Text.Blank

/-!
# Lines on a console

A tab is shown as spaces up to the next stop, eight cells apart. In a limited width the words of a
line go on below it. A word that is wider is cut off, or goes on below as well.

* `Console.Overflow`: what becomes of a wider word;
* `Console.expanded`: a line without tabs;
* `Console.chunks`: a line as words with the blanks behind them;
* `Console.wrap`, `Console.fit`: a line as lines of a width;
* **`Console.linesWithin`**: the lines that a text takes in a width.
-/

namespace ThemedCss.Console

/-- The cells of a line of the console. -/
def width : Nat := 400

/-- What becomes of a word that is wider than a line. -/
inductive Overflow
  /-- It is cut off, and an ellipsis ends it. -/
  | ellipsis
  /-- It goes on in the lines below. -/
  | fold
  deriving DecidableEq

/-- A text in front of the first of some lines. -/
def prepend (t : Text) (lines : List Text) : List Text := t.foldr Text.consHead lines

/-- Some lines, the first of which goes on behind the last one of others. -/
def joinLines (front back : List Text) : List Text :=
  front.dropLast ++ prepend (front.getLastD []) back

/-! ## Tabs -/

/-- The cells between two stops. -/
def tabSize : Nat := 8

/-- The parts of a line between tabs; the first one starts in some cell. A tab is one space and
those up to the next stop. -/
def expandedParts (cell : Nat) : List Text → Text
  | [] => []
  | [part] => part
  | part :: rest =>
    let part := part ++ [' ']
    let cell := cell + Text.cells part
    let stop := (cell + tabSize - 1) / tabSize * tabSize
    part ++ List.replicate (stop - cell) ' ' ++ expandedParts stop rest

/-- The parts of a line between tabs. -/
def tabParts : Text → List Text
  | [] => [[]]
  | c :: t => if c = '\t' then [] :: tabParts t else Text.consHead c (tabParts t)

/-- A line with spaces for its tabs. -/
def expanded (line : Text) : Text := expandedParts 0 (tabParts line)

/-! ## Words -/

/-- What stands behind a code point, split where a word starts behind a blank. -/
def chunksBehind (previous : Char) : Text → List Text
  | [] => [[]]
  | c :: t =>
    let rest := Text.consHead c (chunksBehind c t)
    if Text.isBlank previous && !Text.isBlank c then [] :: rest else rest

/-- The words of a line with the blanks behind them; the first one has those before it as well. -/
def chunks (line : Text) : List Text :=
  match line.dropWhile Text.isBlank with
  | [] => []
  | c :: t => prepend (line.takeWhile Text.isBlank) (Text.consHead c (chunksBehind c t))

/-- Some glyphs in lines of a width, behind those that fill the first cells of a line. -/
def foldBehind (width used : Nat) : List Glyph → List Text
  | [] => [[]]
  | g :: gs =>
    if used + g.cells ≤ width then prepend g.text (foldBehind width (used + g.cells) gs)
    else [] :: prepend g.text (foldBehind width g.cells gs)

/-- The lines that a word at the start of a line takes. -/
def wordLines (overflow : Overflow) (width : Nat) (chunk : Text) : List Text :=
  if overflow = .fold && width < Text.cells (Text.stripRight chunk) then
    foldBehind width 0 (Text.glyphs chunk)
  else [chunk]

/-- Some words behind those that fill the first cells of a line. -/
def wrapBehind (overflow : Overflow) (width used : Nat) : List Text → List Text
  | [] => [[]]
  | chunk :: rest =>
    if used + Text.cells (Text.stripRight chunk) ≤ width then
      prepend chunk (wrapBehind overflow width (used + Text.cells chunk) rest)
    else
      let lines := wordLines overflow width chunk
      let used := Text.cells (lines.getLastD [])
      [] :: joinLines lines (wrapBehind overflow width used rest)

/-- The words of a line, in as many lines as they need. -/
def wrap (overflow : Overflow) (width : Nat) (line : Text) : List Text :=
  match chunks line with
  | [] => [line]
  | first :: rest =>
    let lines := wordLines overflow width first
    let used := Text.cells (lines.getLastD [])
    joinLines lines (wrapBehind overflow width used rest)

/-! ## Cutting -/

/-- A line without the blanks at its end, as far as they stand behind a width. -/
def trimEnd (width : Nat) (line : Text) : Text :=
  let blanks := line.length - (Text.stripRight line).length
  line.take (line.length - min blanks (line.length - width))

/-- A line in a width. -/
def fit (overflow : Overflow) (width : Nat) (line : Text) : Text :=
  let line := trimEnd width line
  if Text.cells line ≤ width then line
  else match overflow with
    | .ellipsis => Glyph.take (width - 1) (Text.glyphs line) ++ ['…']
    | .fold => Glyph.take width (Text.glyphs line)

/-- The lines that a text takes in a width. -/
def linesWithin (overflow : Overflow) (width : Nat) (t : Text) : List Text :=
  (Text.lines t).flatMap fun line =>
    (wrap overflow width (expanded line)).map (fit overflow width)

end ThemedCss.Console
