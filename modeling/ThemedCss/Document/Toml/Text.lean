import ThemedCss.Document.Digits
import ThemedCss.Fault

/-!
# Texts and keys of TOML documents

* `Toml.Problem`: what can be wrong with a document;
* `Toml.isControl`: what no text and no comment may hold;
* `Toml.basicBody`, `Toml.literalBody`: what stands between double and single quotes;
* `Toml.manyLines`, `Toml.quoted`: texts between three quotes, over several lines, and all quoted texts;
* **`Toml.path`**: a key, which may have several parts with points between them.
-/

namespace ThemedCss.Toml

/-- What can be wrong with a document. -/
inductive Problem
  | malformed
  /-- Something stands for a value that there is not. -/
  | fault (f : Fault)
  deriving DecidableEq

/-- Something at the front of a text, and the text behind it. -/
abbrev Taken (α : Type) := Option (α × Text)

/-- Something at the front of a text and the text behind it, or what is wrong. -/
abbrev Got (α : Type) := Except Problem (α × Text)

/-- What was taken, or else a malformed text. -/
def required {α : Type} : Option α → Except Problem α
  | some a => .ok a
  | none => .error .malformed

/-- A control character other than the tab. -/
def isControl (c : Char) : Bool := (c.toNat < 0x20 && c ≠ '\t') || c = '\x7f'

/-- A space or a tab. -/
def isBlank (c : Char) : Bool := c = ' ' || c = '\t'

/-- The text behind blanks. -/
def skip (t : Text) : Text := t.dropWhile isBlank

/-! ## Escapes -/

/-- What a letter behind a backslash stands for. -/
def escaped? : Char → Option Char
  | 'b' => some '\x08'
  | 't' => some '\t'
  | 'n' => some '\n'
  | 'f' => some '\x0c'
  | 'r' => some '\r'
  | '"' => some '"'
  | '\\' => some '\\'
  | _ => none

/-- The code point that some hexadecimal digits stand for. -/
def codePoint (width : Nat) (t : Text) : Taken Text :=
  let digits := t.take width
  let n := Digits.ofBase 16 digits
  if digits.length = width ∧ digits.all Digits.isHex ∧ n.isValidChar then
    some ([Char.ofNat n], t.drop width)
  else none

/-- The blanks and line ends behind a backslash at the end of a line. -/
def lineJoint (t : Text) : Taken Text :=
  match skip t with
  | [] => some ([], [])
  | '\n' :: rest => some ([], rest.dropWhile fun c => isBlank c || c = '\n')
  | _ => none

/-- What an escape stands for, from behind its backslash on. -/
def escape (lines : Bool) : Text → Taken Text
  | 'u' :: t => codePoint 4 t
  | 'U' :: t => codePoint 8 t
  | c :: t =>
    if lines ∧ (isBlank c ∨ c = '\n') then lineJoint (c :: t)
    else (escaped? c).map fun e => ([e], t)
  | [] => none

/-! ## Quoted texts -/

/-- The rest of a text in double quotes, up to one or three of them. -/
def basicBody (lines : Bool) (t : Text) : Taken Text :=
  match t with
  | [] => none
  | '\\' :: rest =>
    match escape lines rest with
    | none => none
    | some (part, behind) =>
      if _h : behind.length < rest.length + 1 then
        (basicBody lines behind).map fun (more, r) => (part ++ more, r)
      else none
  | c :: rest =>
    if c = '"' ∧ !lines then some ([], rest)
    else if c = '"' ∧ rest.take 2 = ['"', '"'] then some ([], rest.drop 2)
    else if isControl c ∧ !(lines ∧ c = '\n') then none
    else (basicBody lines rest).map fun (more, r) => (c :: more, r)
termination_by t.length

/-- The rest of a text in single quotes, up to one or three of them. -/
def literalBody (lines : Bool) : Text → Taken Text
  | [] => none
  | c :: rest =>
    if c = '\'' ∧ !lines then some ([], rest)
    else if c = '\'' ∧ rest.take 2 = ['\'', '\''] then some ([], rest.drop 2)
    else if isControl c ∧ !(lines ∧ c = '\n') then none
    else (literalBody lines rest).map fun (more, r) => (c :: more, r)

/-- A text over several lines: a line end at its start is left out, and up to two more quotes at
its end belong to it. -/
def manyLines (quote : Char) (body : Text → Taken Text) (t : Text) : Taken Text :=
  let start := match t with
    | '\n' :: t => t
    | t => t
  (body start).map fun (text, rest) =>
    let quotes := (rest.take 2).takeWhile (· = quote)
    (text ++ quotes, rest.drop quotes.length)

/-- A quoted text, from its quotes on. -/
def quoted (t : Text) : Taken Text :=
  match t with
  | '"' :: '"' :: '"' :: t => manyLines '"' (basicBody true) t
  | '"' :: t => basicBody false t
  | '\'' :: '\'' :: '\'' :: t => manyLines '\'' (literalBody true) t
  | '\'' :: t => literalBody false t
  | _ => none

/-! ## Keys -/

/-- A code point of a key without quotes. -/
def isBare (c : Char) : Bool := c.isAlphanum || c = '-' || c = '_'

/-- One part of a key. -/
def part (t : Text) : Taken Text :=
  match t with
  | '"' :: t => basicBody false t
  | '\'' :: t => literalBody false t
  | t => if t.head?.any isBare then some (t.span isBare) else none

/-- The parts of a key, with the blanks behind it left out. -/
def path (t : Text) : Taken (List Text) :=
  match part t with
  | none => none
  | some (first, rest) =>
    match skip rest with
    | '.' :: more =>
      if _h : (skip more).length < t.length then
        (path (skip more)).map fun (parts, r) => (first :: parts, r)
      else none
    | behind => some ([first], behind)
termination_by t.length

end ThemedCss.Toml
