import ThemedCss.Config
import ThemedCss.Document.Bytes
import ThemedCss.Document.Digits
import ThemedCss.Fault
import ThemedCss.Issue
import ThemedCss.Text.Blank
import ThemedCss.Text.Kebab

/-!
# Checking settings

Reads settings from the fields of a table. Values of other types are taken where they stand for
one of the right type without a doubt.

* `Config.readInteger`: an integer from its text;
* `Config.wholeNumber`: an integer from a double;
* `Config.integer`, `Config.flag`, `Config.text`, `Config.themeKeys`: the value of a field;
* **`Config.ofFields`**: the settings, or every issue: those of the fields in their order, then
  the fields that there are not.
-/

namespace ThemedCss.Config

/-! ## Integers in texts -/

/-- An integer behind its leading zeros and the underscores among them, from the text behind the
last of them: one is kept in front of a point, and when there is nothing else. -/
def afterZeros? (last : Char) : Text → Option Text
  | [] => some [last]
  | c :: t =>
    if c = '0' ∨ c = '_' then afterZeros? c t
    else if c = '-' ∨ Digits.isDecimal c then some (c :: t)
    else if c = '.' then some (last :: c :: t)
    else none

/-- A magnitude without leading zeros. -/
def withoutZeros? : Text → Option Text
  | [] => none
  | c :: t =>
    if c = '0' then afterZeros? c t
    else if Digits.isDecimal c then some (c :: t)
    else none

/-- A text up to its first point, when zeros and nothing else follow this. -/
def withoutFraction (t : Text) : Text :=
  match t.span (· ≠ '.') with
  | (whole, _ :: zeros) => if zeros ≠ [] ∧ zeros.all (· = '0') then whole else t
  | _ => t

/-- A text without the underscores in it, if they stand alone between other code points. -/
def withoutUnderscores (t : Text) : Text :=
  if t.head? = some '_' ∨ t.getLast? = some '_' ∨ Text.contains "__" t then t
  else t.filter (· ≠ '_')

/-- The text of an integer as sign and digits, if it is the text of one: blanks around it, a plus,
leading zeros, underscores and a fraction of zeros do no harm. -/
def plainInteger? (t : Text) : Option Text :=
  let plain? := match Text.trim t with
    | '+' :: t => withoutZeros? t
    | '-' :: t => (withoutZeros? t).map ('-' :: ·)
    | t => withoutZeros? t
  plain?.map (withoutUnderscores ∘ withoutFraction)

/-- The sign of an integer's text, and what is behind it. -/
def signOf : Text → Bool × Text
  | '-' :: t => (true, t)
  | t => (false, t)

/-- An integer from its sign and digits; these do not start with a zero, unless it is the only
one. -/
def signedInteger? (t : Text) : Option Int :=
  let (negative, digits) := signOf t
  if digits = [] ∨ ¬ digits.all Digits.isDecimal ∨ (digits.head? = some '0' ∧ digits ≠ ['0']) ∨
      Fault.maxDigits < t.length then none
  else some (if negative then -Digits.ofDecimal digits else Digits.ofDecimal digits)

/-- Whether a text starts with an integer of more places than one is read from; its sign takes a
place. -/
def startsOversized (t : Text) : Bool :=
  let (negative, rest) := signOf t
  let digits := rest.takeWhile Digits.isDecimal
  let places := if negative then digits.length + 1 else digits.length
  digits ≠ [] && digits.head? ≠ some '0' && decide (Fault.maxDigits < places)

/-- An integer from its text: as it stands if it has too many digits, else without what does no
harm. -/
def readInteger (t : Text) : Except Problem Int :=
  if startsOversized t then .error .oversizedInteger
  else match plainInteger? t >>= signedInteger? with
    | some n => .ok n
    | none => .error .unreadableInteger

/-! ## Numbers of machine size -/

/-- Whether an integer fits into 64 bits with its sign. -/
def fits (n : Int) : Bool := -Int.pow 2 63 ≤ n && n < Int.pow 2 63

/-- A double as an integer: it has no fraction and lies strictly between the ends of the 64-bit
integers. -/
def wholeNumber : Double → Except Problem Int
  | .finite s m k =>
    match (Double.finite s m k).integer? with
    | some n => if -Int.pow 2 63 < n ∧ n < Int.pow 2 63 then .ok n else .error .oversizedInteger
    | none => .error .fractional
  | _ => .error .notFinite

/-! ## Values of fields -/

/-- An integer, from anything that stands for one. -/
def integer : Value → Except Problem Int
  | .scalar (.int n) => .ok n
  | .scalar (.bool b) => .ok (if b then 1 else 0)
  | .scalar (.float x) => wholeNumber x
  | .scalar (.text t) => readInteger t
  | _ => .error .notInteger

/-- A number that is at least one. -/
def positive (v : Value) : Except Problem Nat := do
  let n ← integer v
  if 1 ≤ n then return n.toNat else .error .belowOne

/-- A number that is at least one, or null for none. -/
def bound : Value → Except Problem (Option Nat)
  | .scalar .null => .ok none
  | v => some <$> positive v

/-- The truth value that an integer stands for. -/
def flagOfInteger (n : Int) : Except Problem Bool :=
  if n = 0 then .ok false else if n = 1 then .ok true else .error .unreadableFlag

/-- A truth value, from anything that stands for one. -/
def flag : Value → Except Problem Bool
  | .scalar (.bool b) => .ok b
  | .scalar (.int n) => if fits n then flagOfInteger n else .error .notFlag
  | .scalar (.float x) =>
    match wholeNumber x with
    | .ok n => flagOfInteger n
    | .error _ => .error .notFlag
  | .scalar (.text t) =>
    let word := t.map Text.smallLetter
    if (["true", "t", "yes", "y", "on", "1"] : List Text).contains word then .ok true
    else if (["false", "f", "no", "n", "off", "0"] : List Text).contains word then .ok false
    else .error .unreadableFlag
  | _ => .error .notFlag

/-- The text of a scalar: a text itself, or the one that bytes spell. -/
def textOfScalar : Scalar → Except Problem Text
  | .text t => .ok t
  | .special s =>
    if s.kind = .bytes then (Bytes.text? s.bytes).elim (.error .notSpelled) .ok
    else .error .notText
  | _ => .error .notText

/-- A text. -/
def text : Value → Except Problem Text
  | .scalar s => textOfScalar s
  | _ => .error .notText

/-- A reading of theme keys, by its exact name. -/
def themeKeys : Value → Except Problem ThemeKeys
  | .scalar (.text t) =>
    match ThemeKeys.ofName t with
    | .ok k => .ok k
    | .error _ => .error .notChoice
  | _ => .error .notChoice

/-! ## Settings -/

/-- The names of the fields. -/
def fieldNames : List Text :=
  ["hoist_threshold", "dark_media_query", "vars_theme_keys", "style_theme_keys", "dedupe",
    "indent", "cache_max_entries"]

/-- The value of one field, or its default. -/
def field {α : Type} (name : Text) (read : Value → Except Problem α) (default : α)
    (fields : List (Scalar × Value)) : Checked α :=
  match Value.field? name fields with
  | none => .ok default
  | some v => (read v).mapError fun problem => [⟨[name], problem⟩]

/-- The issues of the fields that there are not. -/
def unknownFields (fields : List (Scalar × Value)) : List Issue :=
  (fields.filter fun (k, _) => !fieldNames.contains k.display).map fun (k, _) =>
    ⟨[k.display], .unknownField⟩

/-- The settings that some fields give. -/
def ofFields (fields : List (Scalar × Value)) : Checked Config :=
  let d : Config := {}
  let threshold := field "hoist_threshold" positive d.hoistThreshold fields
  let query := field "dark_media_query" text d.darkMediaQuery fields
  let vars := field "vars_theme_keys" themeKeys d.varsThemeKeys fields
  let styles := field "style_theme_keys" themeKeys d.styleThemeKeys fields
  let dedupe := field "dedupe" flag d.dedupe fields
  let indent := field "indent" text d.indent fields
  let entries := field "cache_max_entries" bound d.cacheMaxEntries fields
  let unknown := unknownFields fields
  let found := threshold.issues ++ query.issues ++ vars.issues ++ styles.issues ++ dedupe.issues ++
    indent.issues ++ entries.issues ++ unknown
  if found = [] then do
    return ⟨← threshold, ← query, ← vars, ← styles, ← dedupe, ← indent, ← entries⟩
  else .error found

end ThemedCss.Config
