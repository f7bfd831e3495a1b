import ThemedCss.Fault

/-!
# Places in a YAML document

* `Yaml.Cursor`: what is left of a document, with its line and column;
* `Cursor.peek`, `Cursor.next`, `Cursor.skip`, `Cursor.span`: looking ahead and moving on;
* `Cursor.lineBreak`: a line break is read as a line feed, and the separators of Unicode as
  themselves;
* `Cursor.isSeparator`: the three hyphens or points between documents;
* `Yaml.Problem`: what can be wrong with a document.
-/

namespace ThemedCss.Yaml

/-- What can be wrong with a document. -/
inductive Problem
  | unprintable
  | unexpectedCharacter
  | unclosedText
  | unknownEscape
  | separatorInText
  | blockHeader
  | missingColon
  | entryNotAllowed
  | keyNotAllowed
  | valueNotAllowed
  | anchorName
  | tagName
  | directive
  | unexpectedToken
  | severalDocuments
  | undefinedAlias
  | repeatedAnchor
  | unknownTag
  | tagMismatch
  | malformedBytes
  | unusableKey
  | unusableMerge
  /-- The tokens end where one is needed. -/
  | truncated
  /-- Something stands for a value that there is not. -/
  | fault (f : Fault)
  deriving DecidableEq

/-- A code point that ends a line. -/
def isBreak (c : Char) : Bool :=
  c = '\n' || c = '\u0085' || c = '\u2028' || c = '\u2029'

/-- A space, a tab or the end of a line. -/
def isSpace (c : Char) : Bool := c = ' ' || c = '\t' || isBreak c

/-- What is left of a document from some place on. -/
structure Cursor where
  rest : Text
  offset : Nat := 0
  line : Nat := 0
  column : Nat := 0

namespace Cursor

/-- A code point further on, if the document does not end before. -/
def peek (c : Cursor) (ahead : Nat := 0) : Option Char := c.rest[ahead]?

/-- Whether a space, a line break or the end of the document stands further on. -/
def isSpaceAt (c : Cursor) (ahead : Nat) : Bool := (c.peek ahead).all isSpace

/-- Whether a line break stands here. -/
def isBreakAt (c : Cursor) (ahead : Nat := 0) : Bool := (c.peek ahead).any isBreak

/-- Whether a given code point stands here. -/
def isAt (c : Cursor) (ch : Char) (ahead : Nat := 0) : Bool := c.peek ahead = some ch

/-- The place behind one code point; a byte order mark has no width. -/
def next (c : Cursor) : Cursor :=
  match c.rest with
  | [] => c
  | ch :: rest =>
    if isBreak ch then ⟨rest, c.offset + 1, c.line + 1, 0⟩
    else ⟨rest, c.offset + 1, c.line, if ch = '\ufeff' then c.column else c.column + 1⟩

/-- The place behind some code points. -/
def skip : Nat → Cursor → Cursor
  | 0, c => c
  | n + 1, c => skip n c.next

/-- The code points that pass a test, and the place behind them. -/
def span (p : Char → Bool) (c : Cursor) : Text × Cursor :=
  let taken := c.rest.takeWhile p
  (taken, c.skip taken.length)

/-- The place behind the code points that pass a test. -/
def skipWhile (p : Char → Bool) (c : Cursor) : Cursor := (c.span p).2

/-- The rest of the line, and the place of its end. -/
def toLineEnd (c : Cursor) : Text × Cursor := c.span fun ch => !isBreak ch

/-- The line break that stands here, if any, and the place behind it. -/
def lineBreak (c : Cursor) : Text × Cursor :=
  match c.peek with
  | some ch =>
    if ch = '\u2028' ∨ ch = '\u2029' then ([ch], c.next)
    else if isBreak ch then ("\n", c.next)
    else ([], c)
  | none => ([], c)

/-- Whether three hyphens or three points stand here alone. -/
def isSeparator (c : Cursor) : Bool :=
  (("---" : Text).isPrefixOf c.rest || ("..." : Text).isPrefixOf c.rest) && c.isSpaceAt 3

end Cursor

end ThemedCss.Yaml
