import ThemedCss.Document.Yaml.Scalar

/-!
# Tokens of YAML documents

A document as a sequence of tokens. Indentation becomes tokens that open and close blocks; that
something was a key is known only at the colon behind it, and the token that says so is put in
front of it then.

* `Yaml.Token`;
* `Yaml.PossibleKey`: a place where a key may have started;
* `Yaml.Lexer`: the tokens so far, and what the next ones depend on;
* **`Yaml.tokens`**: the tokens of a document, up to the first problem in them.
-/

namespace ThemedCss.Yaml

/-- A token of a document. -/
inductive Token
  /-- The version of the format, of which the first number counts. -/
  | version (major : Nat)
  /-- A handle of tags, and what it stands for. -/
  | handle (name start : Text)
  /-- An instruction that says nothing to this reader. -/
  | directive
  | documentStart
  | documentEnd
  | blockSequence
  | blockMapping
  | blockEnd
  | flowSequence
  | flowSequenceEnd
  | flowMapping
  | flowMappingEnd
  | comma
  | entry
  | key
  | value
  | alias (name : Text)
  | anchor (name : Text)
  /-- A tag; one without a handle is complete. -/
  | tag (handle : Option Text) (suffix : Text)
  /-- A text, and whether it is plain. -/
  | scalar (text : Text) (plain : Bool)
  deriving DecidableEq

/-- A place where a key may have started. -/
structure PossibleKey where
  /-- The number of brackets around it. -/
  flow : Nat
  /-- The number of tokens in front of it. -/
  position : Nat
  /-- Whether nothing but a key can stand there. -/
  required : Bool
  offset : Nat
  line : Nat
  column : Nat

/-- The tokens of the beginning of a document, and what the next ones depend on. -/
structure Lexer where
  cursor : Cursor
  tokens : Array Token := #[]
  /-- The number of open brackets. -/
  flow : Nat := 0
  /-- The indentation of the innermost block, and those of the blocks around it. -/
  indent : Int := -1
  outer : List Int := []
  /-- Whether a key may start here. -/
  keyAllowed : Bool := true
  /-- The possible keys, at most one for each number of brackets. -/
  keys : List PossibleKey := []

/-- The tokens after one more step, or a problem. -/
abbrev Step := Except Problem Lexer

namespace Lexer

/-- One more token. -/
def push (s : Lexer) (t : Token) : Lexer := { s with tokens := s.tokens.push t }

/-- The same tokens at another place. -/
def move (s : Lexer) (c : Cursor) : Lexer := { s with cursor := c }

/-- Whether keys may start behind the next token. -/
def allowKey (s : Lexer) (allowed : Bool) : Lexer := { s with keyAllowed := allowed }

/-! ## Possible keys -/

/-- The possible key inside the innermost brackets. -/
def key? (s : Lexer) : Option PossibleKey := s.keys.find? (·.flow = s.flow)

/-- The possible key inside the innermost brackets is given up. -/
def dropKey (s : Lexer) : Step :=
  if s.key?.any (·.required) then .error .missingColon
  else .ok { s with keys := s.keys.filter (·.flow ≠ s.flow) }

/-- The next token may be a key. -/
def saveKey (s : Lexer) : Step :=
  if s.keyAllowed then do
    let c := s.cursor
    let required : Bool := s.flow = 0 ∧ s.indent = c.column
    let k : PossibleKey := ⟨s.flow, s.tokens.size, required, c.offset, c.line, c.column⟩
    let s ← s.dropKey
    return { s with keys := k :: s.keys }
  else .ok s

/-- Keys on earlier lines, or far back, are none. -/
def dropStaleKeys (s : Lexer) : Step :=
  let isStale (k : PossibleKey) : Bool := k.line ≠ s.cursor.line || 1024 < s.cursor.offset - k.offset
  if s.keys.any fun k => isStale k && k.required then .error .missingColon
  else .ok { s with keys := s.keys.filter fun k => !isStale k }

/-! ## Indentation -/

/-- The ends of the blocks among some that are indented by more than a column, and the
indentations of the others. -/
def unwindFrom (column : Int) (indent : Int) : List Int → Nat × Int × List Int
  | [] => if column < indent then (1, -1, []) else (0, indent, [])
  | outer :: rest =>
    if column < indent then
      let (ends, indent, outer) := unwindFrom column outer rest
      (ends + 1, indent, outer)
    else (0, indent, outer :: rest)

/-- The blocks that are indented by more than a column end. -/
def unwind (s : Lexer) (column : Int) : Lexer :=
  if s.flow = 0 then
    let (ends, indent, outer) := unwindFrom column s.indent s.outer
    { s with
      tokens := s.tokens ++ Array.replicate ends Token.blockEnd
      indent := indent
      outer := outer }
  else s

/-- A block starts in a column, if it is indented by more than the innermost one: its token is
put at a position. -/
def openBlock (s : Lexer) (column : Nat) (position : Nat) (t : Token) : Lexer :=
  if s.indent < column then
    { s with
      tokens := s.tokens.insertIdxIfInBounds position t
      indent := column
      outer := s.indent :: s.outer }
  else s

/-! ## Tokens -/

/-- A token of some width. -/
def mark (s : Lexer) (width : Nat) (t : Token) : Lexer := (s.push t).move (s.cursor.skip width)

/-- All blocks end, and no key may start. -/
def closeBlocks (s : Lexer) : Step := do return (← (s.unwind (-1)).dropKey).allowKey false

/-- A separator of documents. -/
def separator (s : Lexer) (t : Token) : Step := do return (← s.closeBlocks).mark 3 t

/-- Whether a space, a line break or the end of the document stands at a place. -/
def endsWord (c : Cursor) : Bool := c.peek.all fun ch => ch = ' ' || isBreak ch

/-- A code point of the name of an anchor, a handle or an instruction. -/
def isNameChar (c : Char) : Bool := c.isAlphanum || c = '-' || c = '_'

/-- A code point of a tag. -/
def isTagChar (c : Char) : Bool :=
  c.isAlphanum || ("-;/?:@&=+$,_.!~*'()[]%" : Text).contains c

/-- The text that some bytes spell. -/
def ofBytes? (bytes : List UInt8) : Option Text :=
  (String.fromUTF8? ⟨bytes.toArray⟩).map String.toList

/-- A part of a tag with its escapes replaced: a percent sign stands in front of each byte. The
bytes in front of the text belong together with those at its start. -/
def unescape (bytes : List UInt8) : Text → Option Text
  | '%' :: a :: b :: t =>
    if Digits.isHex a ∧ Digits.isHex b then
      unescape (bytes ++ [UInt8.ofNat (Digits.ofBase 16 [a, b])]) t
    else none
  | '%' :: _ => none
  | c :: t => do return (← ofBytes? bytes) ++ c :: (← unescape [] t)
  | [] => ofBytes? bytes

/-- A part of a tag, and the place behind it. -/
def tagPart (problem : Problem) (c : Cursor) : Scan :=
  let (raw, behind) := c.span isTagChar
  match unescape [] raw with
  | some part => if part = [] then .error problem else .ok (part, behind)
  | none => .error problem

/-- The version of the format: two numbers with a point between them. -/
def version (c : Cursor) : Except Problem (Token × Cursor) :=
  let (major, point) := (c.skipWhile (· = ' ')).span Digits.isDecimal
  let (minor, behind) := point.next.span Digits.isDecimal
  if major = [] ∨ !point.isAt '.' ∨ minor = [] ∨ !endsWord behind then .error .directive
  else .ok (.version (Digits.ofDecimal major), behind)

/-- A handle of tags and what it stands for. -/
def handle (c : Cursor) : Except Problem (Token × Cursor) := do
  let mark := c.skipWhile (· = ' ')
  let (name, ends) := mark.next.span isNameChar
  let behind := if mark.isAt ' ' 1 then mark.next else ends.next
  let known := mark.isAt '!' && (mark.isAt ' ' 1 || ends.isAt '!') && behind.isAt ' '
  let (start, c) ← tagPart .directive (behind.skipWhile (· = ' '))
  if !known ∨ !endsWord c then .error .directive
  else return (.handle (if mark.isAt ' ' 1 then "!" else '!' :: name ++ ['!']) start, c)

/-- An instruction for the reader, on a line of its own. -/
def directive (s : Lexer) : Step := do
  let s ← s.closeBlocks
  let (name, c) := s.cursor.next.span isNameChar
  if name = [] ∨ !endsWord c then .error .directive
  else
    let (token, c) ←
      if name = ("YAML" : Text) then version c
      else if name = ("TAG" : Text) then handle c
      else pure (Token.directive, c.toLineEnd.2)
    let c := c.skipWhile (· = ' ')
    let c := if c.isAt '#' then c.toLineEnd.2 else c
    if c.peek.all isBreak then return (s.push token).move c else .error .directive

/-- An opening bracket, which may start a key. -/
def openFlow (s : Lexer) (t : Token) : Step := do
  let s ← s.saveKey
  return ({ s with flow := s.flow + 1 }.allowKey true).mark 1 t

/-- A closing bracket; one that closes nothing has no place. -/
def closeFlow (s : Lexer) (t : Token) : Step := do
  let s ← s.dropKey
  if s.flow = 0 then .error .unexpectedToken
  else return ({ s with flow := s.flow - 1 }.allowKey false).mark 1 t

/-- A comma between items. -/
def comma (s : Lexer) : Step := do return ((← s.dropKey).allowKey true).mark 1 .comma

/-- The hyphen in front of an item of a block. -/
def entry (s : Lexer) : Step := do
  if s.flow = 0 ∧ !s.keyAllowed then .error .entryNotAllowed
  else
    let s := if s.flow = 0 then s.openBlock s.cursor.column s.tokens.size .blockSequence else s
    return ((← s.dropKey).allowKey true).mark 1 .entry

/-- The question mark in front of a key. -/
def explicitKey (s : Lexer) : Step := do
  if s.flow = 0 ∧ !s.keyAllowed then .error .keyNotAllowed
  else
    let s := if s.flow = 0 then s.openBlock s.cursor.column s.tokens.size .blockMapping else s
    return ((← s.dropKey).allowKey (s.flow = 0)).mark 1 .key

/-- The colon in front of a value: it makes a key of what may be one. -/
def value (s : Lexer) : Step :=
  match s.key? with
  | some k =>
    let keyed : Lexer := { s with
      keys := s.keys.filter (·.flow ≠ s.flow)
      tokens := s.tokens.insertIdxIfInBounds k.position .key }
    let opened := if s.flow = 0 then keyed.openBlock k.column k.position .blockMapping else keyed
    .ok ((opened.allowKey false).mark 1 .value)
  | none =>
    if s.flow = 0 ∧ !s.keyAllowed then .error .valueNotAllowed
    else do
      let s := if s.flow = 0 then s.openBlock s.cursor.column s.tokens.size .blockMapping else s
      return ((← s.dropKey).allowKey (s.flow = 0)).mark 1 .value

/-- The name of an anchor or an alias behind its sign. -/
def anchor (s : Lexer) (make : Text → Token) : Step := do
  let s ← s.saveKey
  let (name, c) := s.cursor.next.span isNameChar
  let ends := c.peek.all fun ch => isSpace ch || ("?:,]\x7d%@\x60" : Text).contains ch
  if name = [] ∨ !ends then .error .anchorName
  else return ((s.allowKey false).push (make name)).move c

/-- A tag: in angle brackets, the exclamation mark alone, or a suffix behind a handle. -/
def tag (s : Lexer) : Step := do
  let s ← s.saveKey
  let c := s.cursor
  let (token, behind) ←
    if c.isAt '<' 1 then
      let (suffix, c) ← tagPart .tagName (c.skip 2)
      if c.isAt '>' then pure (Token.tag none suffix, c.next) else .error .tagName
    else if c.isSpaceAt 1 then pure (Token.tag none "!", c.next)
    else
      let word := (c.next.span fun ch => !(ch = ' ' || isBreak ch || ch = '!')).1
      let (handle, c) :=
        if c.isAt '!' (1 + word.length) then ('!' :: word ++ ['!'], c.skip (2 + word.length))
        else (['!'], c.next)
      let (suffix, c) ← tagPart .tagName c
      if handle.tail.dropLast.all isNameChar then pure (Token.tag (some handle) suffix, c)
      else .error .tagName
  if endsWord behind then return ((s.allowKey false).push token).move behind
  else .error .tagName

/-- A quoted text. -/
def quoted (s : Lexer) (double : Bool) : Step := do
  let s ← s.saveKey
  let (text, c) ← quotedText double s.cursor
  return ((s.allowKey false).push (.scalar text false)).move c

/-- An indented text. -/
def block (s : Lexer) (folded : Bool) : Step := do
  let s ← s.dropKey
  let (text, c) ← blockText folded s.indent s.cursor
  return ((s.allowKey true).push (.scalar text false)).move c

/-- A plain text; behind a line break a key may start. -/
def plain (s : Lexer) : Step := do
  let s ← s.saveKey
  let (text, broken, c) := plainText (0 < s.flow) (s.indent + 1) s.cursor
  return ((s.allowKey broken).push (.scalar text true)).move c

/-- Whether a plain text may start here. -/
def startsPlain (s : Lexer) (ch : Char) : Bool :=
  !isSpace ch && !("-?:,[]\x7b\x7d#&*!|>'\"%@\x60" : Text).contains ch ||
    !s.cursor.isSpaceAt 1 && (ch = '-' || (s.flow = 0 && (ch = '?' || ch = ':')))

/-- The place of the next token: behind spaces, comments and, where they say nothing, line
breaks. -/
def skipBlanks (s : Lexer) : Lexer :=
  let c := s.cursor
  let c := if c.offset = 0 ∧ c.isAt '\ufeff' then c.next else c
  let c := c.skipWhile (· = ' ')
  let c := if c.isAt '#' then c.toLineEnd.2 else c
  if c.isBreakAt then
    if _h : c.lineBreak.2.rest.length < s.cursor.rest.length then
      skipBlanks ((s.move c.lineBreak.2).allowKey (s.keyAllowed || s.flow = 0))
    else s.move c
  else s.move c
termination_by s.cursor.rest.length

/-- The token that starts with a code point. -/
def token (s : Lexer) (ch : Char) : Step :=
  let c := s.cursor
  let lineStart : Bool := c.column = 0
  let inFlow : Bool := 0 < s.flow
  if ch = '%' ∧ lineStart then s.directive
  else if lineStart ∧ c.isSeparator then
    s.separator (if ch = '-' then .documentStart else .documentEnd)
  else if ch = '[' then s.openFlow .flowSequence
  else if ch = '\x7b' then s.openFlow .flowMapping
  else if ch = ']' then s.closeFlow .flowSequenceEnd
  else if ch = '\x7d' then s.closeFlow .flowMappingEnd
  else if ch = ',' then s.comma
  else if ch = '-' ∧ c.isSpaceAt 1 then s.entry
  else if ch = '?' ∧ (inFlow ∨ c.isSpaceAt 1) then s.explicitKey
  else if ch = ':' ∧ (inFlow ∨ c.isSpaceAt 1) then s.value
  else if ch = '*' then s.anchor .alias
  else if ch = '&' then s.anchor .anchor
  else if ch = '!' then s.tag
  else if ch = '|' ∧ !inFlow then s.block false
  else if ch = '>' ∧ !inFlow then s.block true
  else if ch = '\'' then s.quoted false
  else if ch = '"' then s.quoted true
  else if s.startsPlain ch then s.plain
  else .error .unexpectedCharacter

/-- The tokens of which it is known that no key starts in front of them. -/
def settled (s : Lexer) : List Token :=
  s.tokens.toList.take ((s.keys.map (·.position)).foldl min s.tokens.size)

/-- The tokens up to the end of the document, or up to the first problem. -/
def run (s : Lexer) : List Token × Option Problem :=
  match s.skipBlanks.dropStaleKeys with
  | .error p => (s.settled, some p)
  | .ok found =>
    let placed := found.unwind found.cursor.column
    match placed.cursor.peek with
    | none =>
      match placed.closeBlocks with
      | .error p => (placed.settled, some p)
      | .ok s => (s.tokens.toList, none)
    | some ch =>
      match placed.token ch with
      | .error p => (placed.settled, some p)
      | .ok after =>
        if _h : after.cursor.rest.length < s.cursor.rest.length then run after
        else (placed.settled, some .unexpectedCharacter)
termination_by s.cursor.rest.length

end Lexer

/-- A code point that may stand in a document. -/
def isPrintable (c : Char) : Bool :=
  let n := c.toNat
  n == 9 || n == 10 || n == 13 || (0x20 ≤ n && n ≤ 0x7e) || n == 0x85 ||
    (0xa0 ≤ n && n ≤ 0xfffd) || 0x10000 ≤ n

/-- The tokens of a document, and the problem that ends them if there is one. -/
def tokens (document : Text) : List Token × Option Problem :=
  if document.all isPrintable then Lexer.run { cursor := { rest := document } }
  else ([], some .unprintable)

end ThemedCss.Yaml
