import ThemedCss.Document.Digits
import ThemedCss.Value

/-!
# Dates and times

The calendar values of documents, with the text that they show.

* `Calendar.Date`, `Calendar.Clock`, `Calendar.Offset`: the parts of a moment;
* `Calendar.Part`: the part of a moment that there is not, with its wording;
* `Date.check`, `Clock.check`, `Offset.check`: the first part that there is not;
* `Calendar.instant`: how far moments are from each other;
* `Date.value`, `Clock.value`, `Calendar.moment`: calendar values, with the spelling that they
  have inside lists and mappings.
-/

namespace ThemedCss.Calendar

/-- A number with leading zeros up to a width. -/
def padded (width n : Nat) : Text :=
  let digits := Text.ofNat n
  List.replicate (width - digits.length) '0' ++ digits

/-- A day of the calendar. -/
structure Date where
  year : Nat
  month : Nat
  day : Nat

/-- Whether a year has a leap day. -/
def isLeap (year : Nat) : Bool := year % 4 == 0 && (year % 100 != 0 || year % 400 == 0)

/-- The number of days of a month. -/
def daysIn (year month : Nat) : Nat :=
  if month = 2 then (if isLeap year then 29 else 28)
  else if month = 4 ∨ month = 6 ∨ month = 9 ∨ month = 11 then 30
  else 31

/-- A time of day, down to millionths of a second. -/
structure Clock where
  hour : Nat
  minute : Nat
  second : Nat
  micros : Nat := 0

/-- The distance of a local time from the time of the zero meridian. -/
structure Offset where
  behind : Bool := false
  hours : Nat := 0
  minutes : Nat := 0
  deriving DecidableEq

/-- The millionths of a second that the digits behind a point stand for; further digits are cut. -/
def microsOf (digits : Text) : Nat :=
  let six := digits.take 6
  Digits.ofDecimal (six ++ List.replicate (6 - six.length) '0')

/-! ## Spellings -/

/-- The text of a day. -/
def Date.text (d : Date) : Text :=
  padded 4 d.year ++ "-" ++ padded 2 d.month ++ "-" ++ padded 2 d.day

/-- The text of a time of day. -/
def Clock.text (c : Clock) : Text :=
  padded 2 c.hour ++ ":" ++ padded 2 c.minute ++ ":" ++ padded 2 c.second ++
    (if c.micros = 0 then [] else '.' :: padded 6 c.micros)

/-- The text of a distance. -/
def Offset.text (o : Offset) : Text :=
  (if o.behind then "-" else "+" : Text) ++ padded 2 o.hours ++ ":" ++ padded 2 o.minutes

/-- The spelling of a calendar value as a constructor with its arguments. -/
def constructed (name : Text) (arguments : List Text) : Text :=
  "datetime." ++ name ++ "(" ++ List.intercalate ", " arguments ++ ")"

/-- An argument with its name, which is left out when it is zero. -/
def named (name : Text) (n : Int) : List Text :=
  if n = 0 then [] else [name ++ "=" ++ Text.ofInt n]

/-- The numbers of a day. -/
def Date.numbers (d : Date) : List Text := [d.year, d.month, d.day].map Text.ofNat

/-- The numbers of a time of day; the last ones are left out when they are zero. -/
def Clock.numbers (c : Clock) : List Text :=
  let last := if c.micros ≠ 0 then [c.second, c.micros] else if c.second ≠ 0 then [c.second] else []
  ([c.hour, c.minute] ++ last).map Text.ofNat

/-- A distance in minutes, which is negative behind the zero meridian. -/
def Offset.total (o : Offset) : Int :=
  let n : Int := o.hours * 60 + o.minutes
  if o.behind then -n else n

/-- The spelling of a distance as whole days and the seconds that are to be added. -/
def Offset.literal (o : Offset) : Text :=
  let parts := named "days" (o.total / 1440) ++ named "seconds" (o.total % 1440 * 60)
  constructed "timedelta" (if parts = [] then ["0"] else parts)

/-- The spelling of the zone of times at a distance. -/
def Offset.zone (o : Offset) : Text :=
  if o.total = 0 then "datetime.timezone.utc" else constructed "timezone" [o.literal]

/-! ## Missing parts -/

/-- The part of a moment that there is not. -/
inductive Part
  | year (n : Nat)
  | month
  | day
  | hour
  | minute
  | second
  | offset (o : Offset)
  deriving DecidableEq

/-- The wording for a part that there is not. -/
def Part.message : Part → Text
  | year n => "year " ++ Text.ofNat n ++ " is out of range"
  | month => "month must be in 1..12"
  | day => "day is out of range for month"
  | hour => "hour must be in 0..23"
  | minute => "minute must be in 0..59"
  | second => "second must be in 0..59"
  | offset o =>
    "offset must be a timedelta strictly between -timedelta(hours=24) and timedelta(hours=24), not "
      ++ o.literal ++ "."

/-- Whether there is such a day; years count from one. -/
def Date.check (d : Date) : Except Part Unit :=
  if d.year = 0 then .error (.year d.year)
  else if d.month = 0 ∨ 12 < d.month then .error .month
  else if d.day = 0 ∨ daysIn d.year d.month < d.day then .error .day
  else .ok ()

/-- Whether there is such a time. -/
def Clock.check (c : Clock) : Except Part Unit :=
  if 23 < c.hour then .error .hour
  else if 59 < c.minute then .error .minute
  else if 59 < c.second then .error .second
  else .ok ()

/-- Whether there is such a distance, which is shorter than a day. -/
def Offset.check (o : Offset) : Except Part Unit :=
  if o.total.natAbs < 1440 then .ok () else .error (.offset o)

/-! ## Instants -/

/-- The number of days up to a day, from the first one of the first year on. -/
def Date.number (d : Date) : Nat :=
  let years := d.year - 1
  let months := (List.range (d.month - 1)).map fun m => daysIn d.year (m + 1)
  365 * years + years / 4 - years / 100 + years / 400 + months.foldl (· + ·) 0 + d.day

/-- The millionths of a second up to a time of a day at some distance. -/
def instant (d : Date) (c : Clock) (o : Offset) : Int :=
  let minutes : Int := (d.number * 24 + c.hour) * 60 + c.minute - o.total
  (minutes * 60 + c.second) * 1000000 + c.micros

/-! ## Values -/

/-- A day as a value. -/
def Date.value (d : Date) : Scalar :=
  .special { kind := .date, text := d.text, literal := constructed "date" d.numbers }

/-- A time of day as a value. -/
def Clock.value (c : Clock) : Scalar :=
  .special { kind := .time, text := c.text, literal := constructed "time" c.numbers }

/-- A moment as a value. -/
def moment (d : Date) (c : Clock) (offset : Option Offset) : Scalar :=
  let zone := match offset with
    | some o => ["tzinfo=" ++ o.zone]
    | none => []
  .special
    { kind := .dateTime
      text := d.text ++ " " ++ c.text ++ (offset.map Offset.text).getD []
      literal := constructed "datetime" (d.numbers ++ c.numbers ++ zone)
      instant := offset.map (instant d c) }

end ThemedCss.Calendar
