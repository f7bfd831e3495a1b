import ThemedCss.Document.Digits
import ThemedCss.Document.Read
import ThemedCss.Fault
import ThemedCss.Value

/-!
# JSON documents

Reads the data format of JSON into values, with the three words for numbers that have no digits.
A key that comes again keeps its first place and takes its last value.

* `Json.Problem`, `Json.Error`: what is wrong, and where;
* `Json.Error.message`: the wording, with line, column and offset;
* **`Json.parse`**: the value of a document.
-/

namespace ThemedCss.Json

/-- What is wrong with a document. -/
inductive Problem
  | value
  | propertyName
  | colon
  | comma
  | extra
  | unterminated
  | escape
  | unicodeEscape
  | control
  | byteOrderMark
  /-- An integer with too many digits. -/
  | oversized (digits : Nat)
  /-- A list or a mapping inside too many others. -/
  | tooDeep
  deriving DecidableEq

/-- The wording of a problem. -/
def Problem.message : Problem → Text
  | value => "Expecting value"
  | propertyName => "Expecting property name enclosed in double quotes"
  | colon => "Expecting ':' delimiter"
  | comma => "Expecting ',' delimiter"
  | extra => "Extra data"
  | unterminated => "Unterminated string starting at"
  | escape => "Invalid \\escape"
  | unicodeEscape => "Invalid \\uXXXX escape"
  | control => "Invalid control character at"
  | byteOrderMark => "Unexpected UTF-8 BOM (decode using utf-8-sig)"
  | oversized digits => Fault.digitsMessage (some digits)
  | tooDeep => "Too many lists and mappings inside each other"

/-- A problem at an offset, counted in code points. -/
structure Error where
  problem : Problem
  document : Text
  offset : Nat

/-- The wording of an error: lines and columns count from one. -/
def Error.message (e : Error) : Text :=
  let before := e.document.take e.offset
  let line := (before.filter (· = '\n')).length + 1
  let column := (before.reverse.takeWhile (· ≠ '\n')).length + 1
  e.problem.message ++ ": line " ++ Text.ofNat line ++ " column " ++ Text.ofNat column ++
    " (char " ++ Text.ofNat e.offset ++ ")"

/-- The fault of a value that there is not, if that is the problem. -/
def Error.fault? (e : Error) : Option Fault :=
  match e.problem with
  | .oversized digits => some (.tooManyDigits (some digits))
  | .tooDeep => some .endless
  | _ => none

/-- Where reading stopped: the problem, and the text from there on. -/
abbrev Stop := Problem × Text

/-- The blanks between tokens. -/
def isBlank (c : Char) : Bool := c = ' ' || c = '\t' || c = '\n' || c = '\r'

/-- The text from the next token. -/
def skip (t : Text) : Text := t.dropWhile isBlank

theorem skip_length_le (t : Text) : (skip t).length ≤ t.length := (List.dropWhile_sublist _).length_le

/-- What stands behind the next token is shorter. -/
theorem length_lt_of_skip_eq {t rest : Text} {c : Char} (h : skip t = c :: rest) :
    rest.length < t.length := by
  have hle := skip_length_le t
  rw [h] at hle
  exact hle

/-- The text from the token behind the next one is shorter. -/
theorem skip_length_lt_of_skip_eq {t rest : Text} {c : Char} (h : skip t = c :: rest) :
    (skip rest).length < t.length :=
  Nat.lt_of_le_of_lt (skip_length_le rest) (length_lt_of_skip_eq h)

/-! ## Texts -/

/-- What a single letter behind a backslash stands for. -/
def shortEscape? : Char → Option Char
  | '"' => some '"'
  | '\\' => some '\\'
  | '/' => some '/'
  | 'b' => some '\x08'
  | 'f' => some '\x0c'
  | 'n' => some '\n'
  | 'r' => some '\r'
  | 't' => some '\t'
  | _ => none

/-- Four hexadecimal digits with something behind them. -/
def fourDigits? (t : Text) : Option (Read Nat t) :=
  match t with
  | a :: b :: c :: d :: next :: rest =>
    if [a, b, c, d].all Digits.isHex then
      some ⟨Digits.ofBase 16 [a, b, c, d], next :: rest, by simp⟩
    else none
  | _ => none

/-- The code point of an escape whose letter `u` has been read: a high and a low surrogate in two
escapes make one code point. -/
def unicodeEscape (t : Text) : Except Stop (Read Char t) :=
  match fourDigits? t with
  | none => .error (.unicodeEscape, 'u' :: t)
  | some ⟨high, rest, h⟩ =>
    let single : Read Char t := ⟨Char.ofNat high, rest, h⟩
    if 0xd800 ≤ high ∧ high < 0xdc00 then
      match rest with
      | '\\' :: 'u' :: tail =>
        if tail.length < 5 then .ok single
        else match fourDigits? tail with
          | none => .error (.unicodeEscape, 'u' :: tail)
          | some ⟨low, rest', h'⟩ =>
            if 0xdc00 ≤ low ∧ low < 0xe000 then
              .ok ⟨Char.ofNat (0x10000 + (high - 0xd800) * 0x400 + (low - 0xdc00)), rest',
                by simp only [List.length_cons] at h; omega⟩
            else .ok single
      | _ => .ok single
    else .ok single

/-- The rest of a text whose opening quote has been read; `opened` starts at that quote. -/
def textBody (opened : Text) (t : Text) : Except Stop (Read Text t) :=
  match t with
  | [] => .error (.unterminated, opened)
  | '"' :: rest => .ok ⟨[], rest, Nat.lt_succ_self _⟩
  | '\\' :: [] => .error (.unterminated, opened)
  | '\\' :: 'u' :: rest =>
    match unicodeEscape rest with
    | .error stop => .error stop
    | .ok ⟨c, rest', h⟩ =>
      (textBody opened rest').map fun r =>
        (r.map (c :: ·)).within (Nat.le_trans (Nat.le_of_lt h) (Nat.le_add_right _ 2))
  | '\\' :: c :: rest =>
    match shortEscape? c with
    | none => .error (.escape, '\\' :: c :: rest)
    | some e =>
      (textBody opened rest).map fun r => (r.map (e :: ·)).within (Nat.le_add_right _ 2)
  | c :: rest =>
    if c.toNat < 0x20 then .error (.control, c :: rest)
    else (textBody opened rest).map fun r => (r.map (c :: ·)).within (Nat.le_succ _)
termination_by t.length
decreasing_by
  · exact Nat.lt_trans h (Nat.lt_add_of_pos_right (Nat.succ_pos 1))
  · exact Nat.lt_add_of_pos_right (Nat.succ_pos 1)
  · exact Nat.lt_succ_self _

/-! ## Numbers -/

/-- The digits at the front of a text, and the rest. -/
def digits (t : Text) : Text × Text := (t.takeWhile Digits.isDecimal, t.dropWhile Digits.isDecimal)

/-- The fraction at the front of a text: a point and at least one digit. -/
def fraction? : Text → Option (Text × Text)
  | '.' :: t =>
    match digits t with
    | ([], _) => none
    | part => some part
  | _ => none

/-- The exponent at the front of a text: its letter, a sign or none, and at least one digit. -/
def exponent? : Text → Option (Int × Text)
  | c :: t =>
    if c = 'e' ∨ c = 'E' then
      let (negative, t) := match t with
        | '-' :: r => (true, r)
        | '+' :: r => (false, r)
        | _ => (false, t)
      match digits t with
      | ([], _) => none
      | (ds, rest) =>
        let n : Int := Digits.ofDecimal ds
        some (if negative then -n else n, rest)
    else none
  | [] => none

/-- The number at the front of a text without its sign: no digit follows a leading zero. Without
fraction and exponent it is an integer. -/
def magnitude? (negative : Bool) (t : Text) : Option (Scalar × Text) :=
  let whole := match t with
    | '0' :: rest => (['0'], rest)
    | _ => digits t
  match whole with
  | ([], _) => none
  | (ds, rest) =>
    let places := fraction? rest
    let (fraction, rest) := places.getD ([], rest)
    let power := exponent? rest
    let (e, rest) := power.getD (0, rest)
    if places.isNone ∧ power.isNone then
      let n : Int := Digits.ofDecimal ds
      some (.int (if negative then -n else n), rest)
    else
      some (.float (.ofDecimal negative (Digits.ofDecimal (ds ++ fraction)) (e - fraction.length)),
        rest)

/-- The words that stand for values, the numbers without digits among them. -/
def words : List (Text × Scalar) :=
  [("null", .null), ("true", .bool true), ("false", .bool false), ("NaN", .float .nan),
    ("Infinity", .float (.infinite false)), ("-Infinity", .float (.infinite true))]

/-- A word or a number at the front of a text. -/
def scalar? (t : Text) : Option (Scalar × Text) :=
  match words.findSome? fun (word, s) => (word.isPrefixOf? t).map fun rest => (s, rest) with
  | some found => some found
  | none =>
    match t with
    | '-' :: rest => magnitude? true rest
    | _ => magnitude? false t

/-- Whether a scalar has more digits than an integer can have. -/
def isOversized (s : Scalar) (digits : Nat) : Bool :=
  match s with
  | .int _ => Fault.maxDigits < digits
  | _ => false

/-- A word or a number, with the proof that it took something from the text. -/
def scalar (t : Text) : Except Stop (Read Value t) :=
  match scalar? t with
  | none => .error (.value, t)
  | some (s, rest) =>
    let digits := ((t.take (t.length - rest.length)).filter Digits.isDecimal).length
    if isOversized s digits then .error (.oversized digits, t)
    else if h : rest.length < t.length then .ok ⟨s, rest, h⟩ else .error (.value, t)

/-! ## Values -/

/-- The number of lists and mappings that can stand inside each other. -/
def maxDepth : Nat := 980

mutual

/-- The value at the front of a text; some lists and mappings can still stand inside each other. -/
def value (room : Nat) (t : Text) : Except Stop (Read Value t) :=
  match t with
  | '"' :: rest =>
    (textBody ('"' :: rest) rest).map fun r => (r.map Value.text).within (Nat.le_succ _)
  | '[' :: rest =>
    if room = 0 then .error (.tooDeep, '[' :: rest)
    else
      match h : skip rest with
      | ']' :: after => .ok ⟨.list [], after, Nat.lt_succ_of_lt (length_lt_of_skip_eq h)⟩
      | _ =>
        (items (room - 1) (skip rest)).map fun r =>
          (r.map Value.list).within (Nat.le_succ_of_le (skip_length_le rest))
  | '\x7b' :: rest =>
    if room = 0 then .error (.tooDeep, '\x7b' :: rest)
    else
      match h : skip rest with
      | '\x7d' :: after => .ok ⟨.map [], after, Nat.lt_succ_of_lt (length_lt_of_skip_eq h)⟩
      | _ =>
        (members (room - 1) [] (skip rest)).map fun r =>
          (r.map Value.map).within (Nat.le_succ_of_le (skip_length_le rest))
  | t => scalar t
termination_by (t.length, 0)
decreasing_by all_goals exact .left _ _ (Nat.lt_succ_of_le (skip_length_le rest))

/-- The items of a list up to its closing bracket. -/
def items (room : Nat) (t : Text) : Except Stop (Read (List Value) t) :=
  match value room t with
  | .error stop => .error stop
  | .ok ⟨v, rest, hrest⟩ =>
    match h : skip rest with
    | ']' :: after => .ok ⟨[v], after, Nat.lt_trans (length_lt_of_skip_eq h) hrest⟩
    | ',' :: more =>
      have hmore := Nat.lt_trans (skip_length_lt_of_skip_eq h) hrest
      (items room (skip more)).map fun r => (r.map (v :: ·)).within (Nat.le_of_lt hmore)
    | stopped => .error (.comma, stopped)
termination_by (t.length, 1)
decreasing_by
  · exact .right _ (Nat.zero_lt_succ 0)
  · exact .left _ _ hmore

/-- The members of a mapping up to its closing brace, after the ones read before. -/
def members (room : Nat) (fields : List (Scalar × Value)) (t : Text) :
    Except Stop (Read (List (Scalar × Value)) t) :=
  match t with
  | '"' :: body =>
    match textBody ('"' :: body) body with
    | .error stop => .error stop
    | .ok ⟨key, rest, hkey⟩ =>
      match h : skip rest with
      | ':' :: behind =>
        have hbehind := Nat.lt_succ_of_lt (Nat.lt_trans (skip_length_lt_of_skip_eq h) hkey)
        match value room (skip behind) with
        | .error stop => .error stop
        | .ok ⟨v, rest, hrest⟩ =>
          have hvalue := Nat.lt_trans hrest hbehind
          match h : skip rest with
          | '\x7d' :: after =>
            .ok ⟨Value.put (.text key) v fields, after,
              Nat.lt_trans (length_lt_of_skip_eq h) hvalue⟩
          | ',' :: more =>
            have hmore := Nat.lt_trans (skip_length_lt_of_skip_eq h) hvalue
            (members room (Value.put (.text key) v fields) (skip more)).map fun r =>
              r.within (Nat.le_of_lt hmore)
          | stopped => .error (.comma, stopped)
      | stopped => .error (.colon, stopped)
  | _ => .error (.propertyName, t)
termination_by (t.length, 1)
decreasing_by
  · exact .left _ _ hbehind
  · exact .left _ _ hmore

end

/-- The value of a document, or the first problem in it. -/
def parse (document : Text) : Except Error Value :=
  let errorAt (problem : Problem) (rest : Text) : Error :=
    ⟨problem, document, document.length - rest.length⟩
  match document with
  | '\ufeff' :: _ => .error (errorAt .byteOrderMark document)
  | _ =>
    match value maxDepth (skip document) with
    | .error (problem, rest) => .error (errorAt problem rest)
    | .ok r =>
      match skip r.rest with
      | [] => .ok r.value
      | rest => .error (errorAt .extra rest)

end ThemedCss.Json
