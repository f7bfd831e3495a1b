import ThemedCss.Document.Calendar
import ThemedCss.Document.Toml.Text

/-!
# Scalars of TOML documents

* `Toml.truth`, `Toml.special`: the words for truth values, and for the numbers without digits;
* `Toml.moment`, `Toml.clock`: days with or without a time, and times alone;
* `Toml.number`: integers of four bases, and numbers with a fraction or an exponent;
* **`Toml.scalar`**: the scalar at the front of a text, other than a quoted text.
-/

namespace ThemedCss.Toml

open Calendar

/-- The first word of a table that a text starts with, as what it stands for. -/
def word (table : List (Text × Scalar)) (t : Text) : Taken Scalar :=
  table.findSome? fun (w, s) => (w.isPrefixOf? t).map fun rest => (s, rest)

/-- A truth value. -/
def truth : Text → Taken Scalar := word [("true", .bool true), ("false", .bool false)]

/-- An infinity, or what is not a number. -/
def special : Text → Taken Scalar :=
  word [("inf", .float (.infinite false)), ("+inf", .float (.infinite false)),
    ("-inf", .float (.infinite true)), ("nan", .float .nan), ("+nan", .float .nan),
    ("-nan", .float .nan)]

/-! ## Dates and times -/

/-- A day. -/
def date (t : Text) : Option (Date × Text) := do
  let (year, t) ← Digits.exactly 4 t
  let (month, t) ← Digits.exactly 2 (← List.isPrefixOf? ['-'] t)
  let (day, t) ← Digits.exactly 2 (← List.isPrefixOf? ['-'] t)
  let d : Date := ⟨year, month, day⟩
  guard d.check.isOk
  return (d, t)

/-- The fraction of a second, in millionths. -/
def fraction (t : Text) : Nat × Text :=
  match t with
  | '.' :: digits =>
    match digits.span Digits.isDecimal with
    | ([], _) => (0, t)
    | (ds, rest) => (microsOf ds, rest)
  | _ => (0, t)

/-- A time of day. -/
def clock (t : Text) : Option (Clock × Text) := do
  let (hour, t) ← Digits.exactly 2 t
  let (minute, t) ← Digits.exactly 2 (← List.isPrefixOf? [':'] t)
  let (second, t) ← Digits.exactly 2 (← List.isPrefixOf? [':'] t)
  let (micros, t) := fraction t
  let c : Clock := ⟨hour, minute, second, micros⟩
  guard c.check.isOk
  return (c, t)

/-- Hours and minutes with a sign. -/
def signedOffset (isBehind : Bool) (t : Text) : Option (Offset × Text) := do
  let (hours, t) ← Digits.exactly 2 t
  let (minutes, t) ← Digits.exactly 2 (← List.isPrefixOf? [':'] t)
  guard (hours ≤ 23 ∧ minutes ≤ 59)
  return (⟨isBehind && hours + minutes ≠ 0, hours, minutes⟩, t)

/-- The distance from the zero meridian behind a time. -/
def offset : Text → Taken Offset
  | 'Z' :: t => some ({}, t)
  | 'z' :: t => some ({}, t)
  | '+' :: t => signedOffset false t
  | '-' :: t => signedOffset true t
  | _ => none

/-- The time behind a day: a letter or a space, and the time. -/
def clockBehind (t : Text) : Taken Clock :=
  match t with
  | c :: t => if c = 'T' ∨ c = 't' ∨ c = ' ' then clock t else none
  | [] => none

/-- A day, with a time and a distance from the zero meridian if they follow. -/
def moment (t : Text) : Taken Scalar :=
  (date t).map fun (d, rest) =>
    match clockBehind rest with
    | none => (d.value, rest)
    | some (c, rest) =>
      match offset rest with
      | none => (Calendar.moment d c none, rest)
      | some (o, rest) => (Calendar.moment d c (some o), rest)

/-! ## Numbers -/

/-- Further digits of a base, with single underscores between them left out. -/
def moreDigits (base : Nat) : Text → Text × Text
  | '_' :: c :: t =>
    if Digits.isDigitOf base c then
      let (digits, rest) := moreDigits base t
      (c :: digits, rest)
    else ([], '_' :: c :: t)
  | c :: t =>
    if Digits.isDigitOf base c then
      let (digits, rest) := moreDigits base t
      (c :: digits, rest)
    else ([], c :: t)
  | [] => ([], [])

/-- The digits of a base at the front of a text, at least one. -/
def digits (base : Nat) (t : Text) : Taken Text :=
  if t.head?.any (Digits.isDigitOf base) then some (moreDigits base t) else none

/-- An integer of another base than ten. -/
def based (t : Text) : Taken Scalar :=
  match t with
  | '0' :: 'x' :: t => ofBase 16 t
  | '0' :: 'o' :: t => ofBase 8 t
  | '0' :: 'b' :: t => ofBase 2 t
  | _ => none
where
  ofBase (base : Nat) (t : Text) : Taken Scalar :=
    (digits base t).map fun (ds, rest) => (.int (Digits.ofBase base ds), rest)

/-- Whether there is a minus sign, and the text behind a sign. -/
def sign : Text → Bool × Text
  | '-' :: t => (true, t)
  | '+' :: t => (false, t)
  | t => (false, t)

/-- The digits in front of the point: no further digit follows a leading zero. -/
def whole (t : Text) : Taken Text :=
  match t with
  | '0' :: rest => some (['0'], rest)
  | _ => digits 10 t

/-- The digits behind a point. -/
def places : Text → Taken Text
  | '.' :: t => digits 10 t
  | _ => none

/-- The exponent behind its letter. -/
def exponent : Text → Taken Int
  | c :: t =>
    if c = 'e' ∨ c = 'E' then
      let (negative, unsigned) := sign t
      (digits 10 unsigned).map fun (ds, rest) =>
        let n : Int := Digits.ofDecimal ds
        (if negative then -n else n, rest)
    else none
  | [] => none

/-- A number of base ten: with a point or an exponent it is a double. -/
def decimal (t : Text) : Option (Scalar × Text) := do
  let (negative, unsigned) := sign t
  let (ds, rest) ← whole unsigned
  let fraction := places rest
  let (fs, rest) := fraction.getD ([], rest)
  let power := exponent rest
  let (e, rest) := power.getD (0, rest)
  let n : Int := Digits.ofDecimal ds
  return (
    if fraction.isNone ∧ power.isNone then .int (if negative then -n else n)
    else .float (.ofDecimal negative (Digits.ofDecimal (ds ++ fs)) (e - fs.length)),
    rest)

/-- A number. -/
def number (t : Text) : Taken Scalar := (based t).or (decimal t)

/-- The number of decimal digits of what was taken from a text. -/
def digitCount (t rest : Text) : Nat :=
  ((t.take (t.length - rest.length)).filter Digits.isDecimal).length

/-- The scalar at the front of a text, other than a quoted text. Integers of base ten have a
limited number of digits. -/
def scalar (t : Text) : Got Scalar :=
  let taken := (truth t).or <| (moment t).or <|
    ((clock t).map fun (c, rest) => (c.value, rest)).or <| (number t).or (special t)
  match taken, based t with
  | some (.int n, rest), none =>
    if Fault.maxDigits < digitCount t rest then
      .error (.fault (.tooManyDigits (some (digitCount t rest))))
    else .ok (.int n, rest)
  | taken, _ => required taken

end ThemedCss.Toml
