import ThemedCss.Document.Digits
import ThemedCss.Fault
import ThemedCss.Text.LineEnd

/-!
# Tokens of actions

The values in an action are numbers, texts between quotes, constants and signs. Blanks and line
ends may stand between them, and a number sign starts a comment.

* `Action.Number`, `Action.Token`: the tokens;
* `Action.number?`: the spellings of numbers;
* `Action.quoted?`: texts between quotes, with their escapes;
* **`Action.tokens?`**: the tokens of a text.
-/

namespace ThemedCss.Action

/-- The numbers that an action can spell. -/
inductive Number
  | whole (n : Nat)
  /-- A number with a fraction or an exponent. -/
  | real
  /-- A multiple of the imaginary unit. -/
  | imaginary
  deriving DecidableEq

/-- The tokens of an action. -/
inductive Token
  | number (n : Number)
  | text (isBytes : Bool)
  /-- A value with a name, or three points. -/
  | constant
  /-- The name that stands in front of `()` for a set without members. -/
  | setName
  | sign (c : Char)
  /-- A line end outside brackets. -/
  | lineEnd
  deriving DecidableEq

/-- A token at the front of a text, and what stands behind it. -/
abbrev Taken := Option (Token × Text)

/-! ## Numbers -/

/-- Whether a text is digits of a base, where one underscore may stand between two of them. -/
def areDigits (base : Nat) : Text → Bool
  | [] => false
  | [c] => Digits.isDigitOf base c
  | c :: '_' :: t => Digits.isDigitOf base c && areDigits base t
  | c :: t => Digits.isDigitOf base c && areDigits base t

/-- The number of some digits; it may have only so many in base ten. -/
def wholeOf? (base : Nat) (t : Text) : Option Number :=
  let digits := t.filter (· ≠ '_')
  if !areDigits base t || (base = 10 && Fault.maxDigits < digits.length) then none
  else some (.whole (Digits.ofBase base digits))

/-- The base that a letter behind a zero stands for. -/
def baseOf? (c : Char) : Option Nat :=
  if c = 'x' || c = 'X' then some 16
  else if c = 'o' || c = 'O' then some 8
  else if c = 'b' || c = 'B' then some 2
  else none

/-- Whether a text is digits that can stand on one side of a point. -/
def isPart (t : Text) : Bool := t = [] || areDigits 10 t

/-- Whether a text is digits with a point in front of, between or behind them. -/
def isFraction (t : Text) : Bool :=
  let front := t.takeWhile (· ≠ '.')
  let back := t.drop (front.length + 1)
  front.length < t.length && isPart front && isPart back && (front ≠ [] || back ≠ [])

/-- The text behind a sign. -/
def withoutSign : Text → Text
  | [] => []
  | c :: t => if c = '+' || c = '-' then t else c :: t

/-- Whether a letter stands in front of an exponent. -/
def isExponent (c : Char) : Bool := c = 'e' || c = 'E'

/-- Whether a text is a number with a fraction or an exponent. -/
def isReal (t : Text) : Bool :=
  let front := t.takeWhile fun c => !isExponent c
  if front = t then isFraction t
  else (areDigits 10 front || isFraction front) &&
    areDigits 10 (withoutSign (t.drop (front.length + 1)))

/-- The number that a text of base ten spells; only zero starts with a zero. -/
def decimal? (t : Text) : Option Number :=
  match t.getLast? with
  | none => none
  | some c =>
    if c = 'j' || c = 'J' then
      if areDigits 10 t.dropLast || isReal t.dropLast then some .imaginary else none
    else if isReal t then some .real
    else if t.head? ≠ some '0' || t.all fun c => c = '0' || c = '_' then wholeOf? 10 t
    else none

/-- The number that a text spells. -/
def numberOf? : Text → Option Number
  | '0' :: c :: t =>
    match baseOf? c with
    | some base => wholeOf? base (if t.head? = some '_' then t.drop 1 else t)
    | none => decimal? ('0' :: c :: t)
  | t => decimal? t

/-- A code point of a number. -/
def isNumberPart (c : Char) : Bool := c.isAlphanum || c = '_' || c = '.'

/-- The code points of a number at the front of a text; in base ten a sign may stand behind the
letter in front of an exponent. -/
def spelling (isDecimal : Bool) : Text → Text
  | [] => []
  | c :: t =>
    if !isNumberPart c then []
    else if isDecimal && isExponent c then
      match t with
      | s :: rest => if s = '+' || s = '-' then c :: s :: spelling isDecimal rest
        else c :: spelling isDecimal (s :: rest)
      | [] => [c]
    else c :: spelling isDecimal t

/-- The number at the front of a text. -/
def number? (t : Text) : Taken :=
  let isDecimal := t.head? ≠ some '0' || !(t.drop 1).head?.any fun c => (baseOf? c).isSome
  let front := spelling isDecimal t
  (numberOf? front).map fun n => (.number n, t.drop front.length)

/-! ## Texts between quotes -/

/-- A text up to a quote on the same line, and what stands behind it; a backslash keeps the code
point behind it. -/
def closedBy? (quote : Char) : Text → Option (Text × Text)
  | [] => none
  | '\\' :: c :: t => (closedBy? quote t).map fun (body, rest) => ('\\' :: c :: body, rest)
  | c :: t =>
    if c = quote then some ([], t)
    else if c = '\n' then none
    else (closedBy? quote t).map fun (body, rest) => (c :: body, rest)

/-- A text up to three quotes, and what stands behind them. -/
def closedByThree? (quote : Char) : Text → Option (Text × Text)
  | [] => none
  | '\\' :: c :: t => (closedByThree? quote t).map fun (body, rest) => ('\\' :: c :: body, rest)
  | c :: t =>
    if [c] ++ t.take 2 = List.replicate 3 quote then some ([], t.drop 2)
    else (closedByThree? quote t).map fun (body, rest) => (c :: body, rest)

/-- The body of a text from its opening quotes on, and what stands behind its closing ones. -/
def body? : Text → Option (Text × Text)
  | [] => none
  | quote :: t =>
    if t.take 2 = [quote, quote] then closedByThree? quote (t.drop 2) else closedBy? quote t

/-- Whether a text starts with some hexadecimal digits, for a code point. -/
def hasHex (width : Nat) (t : Text) : Bool :=
  let digits := t.take width
  digits.length = width && digits.all Digits.isHex && Digits.ofBase 16 digits < 0x110000

/-- Whether a text starts with a name of a code point in braces. -/
def hasName (t : Text) : Bool :=
  let name := (t.drop 1).takeWhile fun c => c.isAlphanum || c = ' ' || c = '-'
  t.head? = some '\x7b' && name ≠ [] && (t.drop (name.length + 1)).head? = some '\x7d'

/-- Whether the escapes of a text are complete; those of bytes have at most two digits. -/
def hasEscapes (isBytes : Bool) : Text → Bool
  | [] => true
  | '\\' :: c :: t =>
    (match c with
      | 'x' => hasHex 2 t
      | 'u' => isBytes || hasHex 4 t
      | 'U' => isBytes || hasHex 8 t
      | 'N' => isBytes || hasName t
      | _ => true) && hasEscapes isBytes t
  | _ :: t => hasEscapes isBytes t

/-- The letters in front of a quote, in small form: whether they stand for bytes, and whether a
backslash is a code point as any other. -/
def quotedBy? (letters : Text) : Option (Bool × Bool) :=
  if letters = [] || letters = "u".toList then some (false, false)
  else if letters = "r".toList then some (false, true)
  else if letters = "b".toList then some (true, false)
  else if letters = "br".toList || letters = "rb".toList then some (true, true)
  else none

/-- The text at the front of a text, with some letters in front of its quotes. -/
def quoted? (letters t : Text) : Taken := do
  let (isBytes, isRaw) ← quotedBy? (letters.map Char.toLower)
  let (body, rest) ← body? t
  if isBytes && body.any (128 ≤ ·.toNat) then none
  else if isRaw || hasEscapes isBytes body then some (.text isBytes, rest)
  else none

/-! ## Tokens -/

/-- A quote. -/
def isQuote (c : Char) : Bool := c = '\'' || c = '"'

/-- The word at the front of a text: letters of a quoted text, or the name of a value. -/
def word? (t : Text) : Taken :=
  let word := t.takeWhile fun c => c.isAlphanum || c = '_'
  let rest := t.drop word.length
  if rest.head?.any isQuote then quoted? word rest
  else if word ∈ (["True", "False", "None"] : List Text) then some (.constant, rest)
  else if word = "set".toList then some (.setName, rest)
  else none

/-- The token at the front of a text. -/
def token? : Text → Taken
  | [] => none
  | c :: t =>
    if c ∈ ['(', ')', '\x7b', '\x7d', ',', ':', '+', '-'] then some (.sign c, t)
    else if (c :: t).take 3 = "...".toList then some (.constant, t.drop 2)
    else if c.isDigit || (c = '.' && t.head?.any Char.isDigit) then number? (c :: t)
    else word? (c :: t)

/-- The largest depth of brackets. -/
def maxDepth : Nat := 200

/-- The depth behind a token. -/
def depthBehind? (depth : Nat) : Token → Option Nat
  | .sign c =>
    if c = '(' || c = '\x7b' then if depth < maxDepth then some (depth + 1) else none
    else if c = ')' || c = '\x7d' then if depth = 0 then none else some (depth - 1)
    else some depth
  | _ => some depth

/-- The tokens of a text at a depth of brackets; each step takes at least one code point. A
backslash joins two lines. -/
def tokensFrom? (depth : Nat) : (steps : Nat) → Text → Option (List Token)
  | _, [] => some []
  | 0, _ => none
  | steps + 1, c :: t =>
    if c = ' ' || c = '\t' || c = '\x0c' then tokensFrom? depth steps t
    else if c = '#' then tokensFrom? depth steps (t.dropWhile (· ≠ '\n'))
    else if c = '\n' then
      (tokensFrom? depth steps t).map fun ts => if depth = 0 then .lineEnd :: ts else ts
    else if c = '\\' then
      match t with
      | '\n' :: c :: t => tokensFrom? depth steps (c :: t)
      | _ => none
    else do
      let (token, rest) ← token? (c :: t)
      let ts ← tokensFrom? (← depthBehind? depth token) steps rest
      return token :: ts

/-- The tokens of a text. -/
def tokens? (t : Text) : Option (List Token) :=
  if '\x00' ∈ t then none else tokensFrom? 0 t.length (Text.unifyLineEnds t)

end ThemedCss.Action
