import ThemedCss.Document.Calendar
import ThemedCss.Document.Yaml.Cursor

/-!
# Dates and times of YAML documents

* `Yaml.Moment`: a day, with a time of day and a distance from the zero meridian if it has them;
* `Yaml.moment?`: the moment that a text has the form of;
* `Yaml.impliesMoment`: whether a plain text stands for a moment;
* **`Yaml.momentOf`**: the value of a moment, or what is wrong with it.
-/

namespace ThemedCss.Yaml

open Calendar

/-- A day, or a moment of it. -/
structure Moment where
  date : Date
  clock : Option Clock := none
  offset : Option Offset := none

/-- A space or a tab. -/
def isGap (c : Char) : Bool := c = ' ' || c = '\t'

/-- The time of day behind a day: a letter or spaces, and the time. -/
def clock? (t : Text) : Option (Clock × Text) := do
  let start := match t with
    | 'T' :: t => t
    | 't' :: t => t
    | t => t.dropWhile isGap
  guard (start.length < t.length)
  let (hour, t) ← Digits.upTo 2 start
  let (minute, t) ← Digits.exactly 2 (← List.isPrefixOf? [':'] t)
  let (second, t) ← Digits.exactly 2 (← List.isPrefixOf? [':'] t)
  let (fraction, t) := match t with
    | '.' :: t => t.span Digits.isDecimal
    | t => ([], t)
  return (⟨Digits.ofDecimal hour, minute, second, microsOf fraction⟩, t)

/-- The distance at the end of a moment: hours and minutes with a sign. -/
def signedOffset? (isBehind : Bool) (t : Text) : Option Offset := do
  let (hours, t) ← Digits.upTo 2 t
  let (minutes, t) ← if t = [] then some (0, []) else List.isPrefixOf? [':'] t >>= Digits.exactly 2
  guard (t = [])
  let total := Digits.ofDecimal hours * 60 + minutes
  return ⟨isBehind && total ≠ 0, total / 60, total % 60⟩

/-- The distance at the end of a moment, if there is one. -/
def offset? (t : Text) : Option (Option Offset) :=
  if t = [] then some none
  else match t.dropWhile isGap with
    | ['Z'] => some (some {})
    | '+' :: t => (signedOffset? false t).map some
    | '-' :: t => (signedOffset? true t).map some
    | _ => none

/-- A text without a line feed at its end. -/
def withoutFinalBreak (t : Text) : Text := if t.getLast? = some '\n' then t.dropLast else t

/-- The moment that a text has the form of. -/
def moment? (text : Text) : Option Moment := do
  let t := withoutFinalBreak text
  let (year, behindYear) ← Digits.exactly 4 t
  let (month, behindMonth) ← Digits.upTo 2 (← List.isPrefixOf? ['-'] behindYear)
  let (day, rest) ← Digits.upTo 2 (← List.isPrefixOf? ['-'] behindMonth)
  let date : Date := ⟨year, Digits.ofDecimal month, Digits.ofDecimal day⟩
  if rest = [] then return { date := date }
  else
    let (clock, rest) ← clock? rest
    return ⟨date, some clock, ← offset? rest⟩

/-- Whether a plain text stands for a moment. A day alone has two digits for its month and two for
its day. -/
def impliesMoment (t : Text) : Bool :=
  match moment? t with
  | some m => m.clock.isSome || (withoutFinalBreak t).length = 10
  | none => false

/-- The value of a text that should have the form of a moment. -/
def momentOf (t : Text) : Except Fault Scalar :=
  match moment? t with
  | none => .error .notMoment
  | some ⟨date, none, _⟩ => do
    date.check.mapError .noSuchMoment
    return date.value
  | some ⟨date, some clock, offset⟩ => do
    (offset.mapM Offset.check >>= fun _ => date.check >>= fun _ => clock.check).mapError .noSuchMoment
    return moment date clock offset

end ThemedCss.Yaml
