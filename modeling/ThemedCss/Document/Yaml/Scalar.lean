import ThemedCss.Document.Digits
import ThemedCss.Document.Yaml.Cursor

/-!
# Texts in YAML documents

* `Yaml.quotedText`: a text between single or double quotes;
* `Yaml.plainText`: a text without quotes;
* `Yaml.blockText`: an indented text behind `|` or `>`;
* `Yaml.BlockHeader`: what the indicators of an indented text say.
-/

namespace ThemedCss.Yaml

/-- A text that was read, with the place behind it. -/
abbrev Scan := Except Problem (Text × Cursor)

/-! ## Quoted texts -/

/-- What a letter behind a backslash stands for. -/
def escaped? : Char → Option Char
  | '0' => some '\x00'
  | 'a' => some '\x07'
  | 'b' => some '\x08'
  | 't' => some '\t'
  | '\t' => some '\t'
  | 'n' => some '\n'
  | 'v' => some '\x0b'
  | 'f' => some '\x0c'
  | 'r' => some '\r'
  | 'e' => some '\x1b'
  | ' ' => some ' '
  | '"' => some '"'
  | '\\' => some '\\'
  | '/' => some '/'
  | 'N' => some '\u0085'
  | '_' => some '\u00a0'
  | 'L' => some '\u2028'
  | 'P' => some '\u2029'
  | _ => none

/-- The number of hexadecimal digits behind a letter of an escape. -/
def escapeWidth? : Char → Option Nat
  | 'x' => some 2
  | 'u' => some 4
  | 'U' => some 8
  | _ => none

/-- The line breaks inside a quoted text, with the spaces that start their lines left out. -/
def quotedBreaks (c : Cursor) : Scan :=
  if c.isSeparator then .error .separatorInText
  else
    let start := c.skipWhile fun ch => ch = ' ' || ch = '\t'
    let (brk, behind) := start.lineBreak
    if brk = [] then .ok ([], start)
    else if _h : behind.rest.length < c.rest.length then
      (quotedBreaks behind).map fun (more, c) => (brk ++ more, c)
    else .ok ([], start)
termination_by c.rest.length

/-- One line break counts as a space, and further ones as themselves. -/
def foldBreaks (first more : Text) : Text :=
  if first ≠ ("\n" : Text) then first ++ more else if more = [] then " " else more

/-- The spaces inside a quoted text, with line breaks folded. -/
def quotedSpaces (c : Cursor) : Scan :=
  let (blanks, behind) := c.span fun ch => ch = ' ' || ch = '\t'
  match behind.peek with
  | none => .error .unclosedText
  | some _ =>
    let (brk, after) := behind.lineBreak
    if brk = [] then .ok (blanks, behind)
    else (quotedBreaks after).map fun (more, c) => (foldBreaks brk more, c)

/-- The code point of two numbers of sixteen bits, if they are halves of one. -/
def joinHalves? (high low : Nat) : Option Char :=
  if 0xd800 ≤ high ∧ high < 0xdc00 ∧ 0xdc00 ≤ low ∧ low < 0xe000 then
    some (Char.ofNat (0x10000 + (high - 0xd800) * 0x400 + (low - 0xdc00)))
  else none

/-- The code point with a number, if there is one. -/
def codePoint (n : Nat) : Except Problem Char :=
  if Nat.pow 2 31 ≤ n then .error (.fault .oversized)
  else if 0x110000 ≤ n then .error (.fault .noCodePoint)
  else .ok (Char.ofNat n)

/-- The number of an escape with four digits that stands here, or else zero. -/
def secondHalf (c : Cursor) : Nat :=
  match c.rest with
  | '\\' :: 'u' :: t => if (t.take 4).all Digits.isHex then Digits.ofBase 16 (t.take 4) else 0
  | _ => 0

/-- What an escape stands for, from its backslash on. -/
def escape (c : Cursor) : Scan :=
  let letter := c.next
  match letter.peek with
  | none => .error .unknownEscape
  | some ch =>
    match escaped? ch, escapeWidth? ch with
    | some e, _ => .ok ([e], letter.next)
    | none, some width =>
      let digits := letter.next.rest.take width
      let behind := letter.next.skip width
      if digits.length = width ∧ digits.all Digits.isHex then
        match joinHalves? (Digits.ofBase 16 digits) (secondHalf behind) with
        | some e => .ok ([e], behind.skip 6)
        | none => (codePoint (Digits.ofBase 16 digits)).map fun e => ([e], behind)
      else .error .unknownEscape
    | none, none =>
      if isBreak ch then quotedBreaks letter.lineBreak.2 else .error .unknownEscape

/-- The text up to the next space or the closing quote. -/
def quotedRun (double : Bool) (c : Cursor) : Scan :=
  match c.peek with
  | none => .ok ([], c)
  | some ch =>
    let step : Scan :=
      if isSpace ch then .ok ([], c)
      else if double then
        if ch = '"' then .ok ([], c) else if ch = '\\' then escape c else .ok ([ch], c.next)
      else if ch = '\'' then
        if c.isAt '\'' 1 then .ok (['\''], c.skip 2) else .ok ([], c)
      else .ok ([ch], c.next)
    match step with
    | .error p => .error p
    | .ok (text, after) =>
      if _h : after.rest.length < c.rest.length then
        (quotedRun double after).map fun (more, c) => (text ++ more, c)
      else .ok ([], c)
termination_by c.rest.length

/-- The text up to the closing quote, and the place behind it. -/
def quotedBody (double : Bool) (c : Cursor) : Scan :=
  match quotedRun double c with
  | .error p => .error p
  | .ok (run, after) =>
    if after.isAt (if double then '"' else '\'') then .ok (run, after.next)
    else
      match quotedSpaces after with
      | .error p => .error p
      | .ok (spaces, behind) =>
        if _h : behind.rest.length < c.rest.length then
          (quotedBody double behind).map fun (more, c) => (run ++ spaces ++ more, c)
        else .error .unclosedText
termination_by c.rest.length

/-- A quoted text from its opening quote on. -/
def quotedText (double : Bool) (c : Cursor) : Scan := quotedBody double c.next

/-! ## Plain texts -/

/-- A code point that ends a plain text inside brackets. -/
def isFlowEnd (c : Char) : Bool := c = ',' || c = '?' || c = '[' || c = ']' || c = '\x7b' || c = '\x7d'

/-- A code point that ends a key inside brackets, behind its colon. -/
def isFlowIndicator (c : Char) : Bool := c = ',' || c = '[' || c = ']' || c = '\x7b' || c = '\x7d'

/-- Whether a plain text ends with a code point that has another one behind it. -/
def endsPlain (flow : Bool) (ch : Char) (behind : Option Char) : Bool :=
  isSpace ch || (ch = ':' && behind.all fun b => isSpace b || (flow && isFlowIndicator b)) ||
    (flow && isFlowEnd ch)

/-- The part of a plain text up to the next space. -/
def plainRun (flow : Bool) : Text → Text
  | [] => []
  | ch :: rest => if endsPlain flow ch rest.head? then [] else ch :: plainRun flow rest

/-- The spaces and line breaks behind a part of a plain text. -/
structure PlainSpaces where
  /-- What they count as, unless a separator of documents follows. -/
  text : Option Text
  /-- Whether a line break is among them. -/
  broken : Bool
  place : Cursor

/-- The line breaks at the starts of lines, and whether they end in front of a separator. -/
def plainBreaks (c : Cursor) : Text × Bool × Cursor :=
  if c.isSeparator then ([], true, c)
  else
    let start := c.skipWhile (· = ' ')
    let (brk, behind) := start.lineBreak
    if brk = [] then ([], false, start)
    else if _h : behind.rest.length < c.rest.length then
      let (more, separated, place) := plainBreaks behind
      (brk ++ more, separated, place)
    else ([], false, start)
termination_by c.rest.length

/-- The spaces and line breaks at a place. -/
def plainSpaces (c : Cursor) : PlainSpaces :=
  let (blanks, behind) := c.span (· = ' ')
  let (brk, after) := behind.lineBreak
  if brk = [] then ⟨some blanks, false, behind⟩
  else
    let (more, separated, place) := plainBreaks after
    ⟨if separated then none else some (foldBreaks brk more), true, place⟩

/-- A plain text, whether a line break follows it, and the place behind both. On further lines it
has to stand at least in the column `indent`. -/
def plainText (flow : Bool) (indent : Int) (c : Cursor) : Text × Bool × Cursor :=
  if c.isAt '#' then ([], false, c)
  else
    let run := plainRun flow c.rest
    if run = [] then ([], false, c)
    else
      let spaces := plainSpaces (c.skip run.length)
      let place := spaces.place
      match spaces.text with
      | none => (run, spaces.broken, place)
      | some blanks =>
        if blanks = [] ∨ place.isAt '#' ∨ (!flow ∧ place.column < indent) then
          (run, spaces.broken, place)
        else if _h : place.rest.length < c.rest.length then
          let (more, broken, behind) := plainText flow indent place
          if more = [] then (run, spaces.broken, behind)
          else (run ++ blanks ++ more, broken, behind)
        else (run, spaces.broken, place)
termination_by c.rest.length

/-! ## Indented texts -/

/-- What becomes of the line breaks at the end of an indented text. -/
inductive Chomping
  | strip
  | clip
  | keep
  deriving DecidableEq

/-- What the indicators of an indented text say. -/
structure BlockHeader where
  chomping : Chomping := .clip
  increment : Option Nat := none

/-- A sign that says what becomes of the last line breaks. -/
def chompingOf? : Char → Option Chomping
  | '-' => some .strip
  | '+' => some .keep
  | _ => none

/-- The indicators of an indented text, in either order, and the place behind the line. -/
def blockHeader (c : Cursor) : Except Problem (BlockHeader × Cursor) := do
  let sign (c : Cursor) : Option Chomping × Cursor :=
    match c.peek >>= chompingOf? with
    | some k => (some k, c.next)
    | none => (none, c)
  let digit (c : Cursor) : Option Nat × Cursor :=
    match c.peek with
    | some ch => if Digits.isDecimal ch then (Digits.value? ch, c.next) else (none, c)
    | none => (none, c)
  let (before, c) := sign c
  let (increment, c) := digit c
  let (behind, c) := if before.isNone ∧ increment.isSome then sign c else (none, c)
  if increment = some 0 ∨ !(c.peek.all fun ch => ch = ' ' || isBreak ch) then
    .error .blockHeader
  else
    let c := c.skipWhile (· = ' ')
    let c := if c.isAt '#' then c.toLineEnd.2 else c
    if c.peek.all isBreak then
      return (⟨(before.or behind).getD .clip, increment⟩, c.lineBreak.2)
    else .error .blockHeader

/-- The empty lines in front of an indented text, the widest indentation among them and in the
line that follows, and the place of that line's text. -/
def blockLead (widest : Nat) (c : Cursor) : Text × Nat × Cursor :=
  let start := c.skipWhile (· = ' ')
  let widest := max widest start.column
  let (brk, behind) := start.lineBreak
  if brk = [] then ([], widest, start)
  else if _h : behind.rest.length < c.rest.length then
    let (more, widest, place) := blockLead widest behind
    (brk ++ more, widest, place)
  else ([], widest, start)
termination_by c.rest.length

/-- The place behind the spaces of an indentation. -/
def indentation (indent : Nat) (c : Cursor) : Cursor :=
  c.skip ((c.rest.take (indent - c.column)).takeWhile (· = ' ')).length

/-- The empty lines between the lines of an indented text, and the place of the next one. -/
def blockBreaks (indent : Nat) (c : Cursor) : Text × Cursor :=
  let start := indentation indent c
  let (brk, behind) := start.lineBreak
  if brk = [] then ([], start)
  else if _h : behind.rest.length < c.rest.length then
    let (more, place) := blockBreaks indent behind
    (brk ++ more, place)
  else ([], start)
termination_by c.rest.length

/-- Whether a line starts with a space or a tab. -/
def isIndented (c : Cursor) : Bool := c.isAt ' ' || c.isAt '\t'

/-- The lines of an indented text after the line breaks in front of them: their text, the break
behind the last one, the empty lines behind that, and the place behind all. -/
def blockLines (folded : Bool) (indent : Nat) (brk breaks : Text) (c : Cursor) :
    Text × Text × Text × Cursor :=
  if c.column = indent ∧ c.peek.isSome then
    let (line, ending) := c.toLineEnd
    let (brk, after) := ending.lineBreak
    let (breaks', place) := blockBreaks indent after
    if _h : place.rest.length < c.rest.length then
      if place.column = indent ∧ place.peek.isSome then
        let joint : Text :=
          if folded ∧ brk = ("\n" : Text) ∧ !isIndented c ∧ !isIndented place then
            if breaks' = [] then " " else []
          else brk
        let (more, brk, final, place) := blockLines folded indent brk breaks' place
        (breaks ++ line ++ joint ++ more, brk, final, place)
      else (breaks ++ line, brk, breaks', place)
    else (breaks ++ line, brk, breaks', place)
  else ([], brk, breaks, c)
termination_by c.rest.length

/-- An indented text from its indicator on, below a given indentation. -/
def blockText (folded : Bool) (outer : Int) (c : Cursor) : Scan := do
  let (header, c) ← blockHeader c.next
  let least := (max (outer + 1) 1).toNat
  let (indent, breaks, c) := match header.increment with
    | none =>
      let (breaks, widest, c) := blockLead 0 c
      (max least widest, breaks, c)
    | some n =>
      let (breaks, c) := blockBreaks (least + n - 1) c
      (least + n - 1, breaks, c)
  let (text, brk, final, c) := blockLines folded indent [] breaks c
  return match header.chomping with
    | .strip => (text, c)
    | .clip => (text ++ brk, c)
    | .keep => (text ++ brk ++ final, c)

end ThemedCss.Yaml
