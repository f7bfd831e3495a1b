import ThemedCss.Document.Calendar
import ThemedCss.Number.Decimal
import ThemedCss.Text.Quoted

/-!
# Faults

Why a call cannot use a value that it was given.

* `Fault`: the causes;
* `Fault.message?`: the wording of the faults that name what was given;
* `Scalar.isWritable`: which integers can be written;
* `Failure`: a fault, or an error of some kind of its own;
* `bind_eq_ok_iff`, `map_eq_ok_iff`: the steps of a computation that does not fail.
-/

namespace ThemedCss

/-- Why a call cannot use a value. -/
inductive Fault
  /-- A mapping was expected. -/
  | notMapping
  /-- A text was expected. -/
  | notText
  /-- A sequence was expected. -/
  | notSequence
  /-- Only texts can be joined. -/
  | notJoinable
  /-- A list or a mapping can neither name a scope nor be looked up. -/
  | notKey
  /-- A function was given too few or too many arguments, or one of a kind that it does not take. -/
  | argument
  /-- No partition is named by a value, which is given by its spelling. -/
  | unknownMode (spelling : Text)
  /-- No reading of theme keys is named by a value, which is given by its spelling. -/
  | unknownThemeKeys (spelling : Text)
  /-- A text that is no integer of a base. -/
  | unreadableInteger (base : Nat) (text : Text)
  /-- A text that is no number. -/
  | unreadableNumber (text : Text)
  /-- A text that is no decimal number. -/
  | unreadableDecimal
  /-- No decimal has this part. -/
  | notDecimal (part : Decimal.Part)
  /-- An empty text that should be a number. -/
  | missingNumber
  /-- An integer with too many decimal digits. How many is known when it was read. -/
  | tooManyDigits (digits : Option Nat)
  /-- What was looked up is not there. -/
  | missing
  /-- A text that has not the form of a moment. -/
  | notMoment
  /-- There is no moment with this part. -/
  | noSuchMoment (part : Calendar.Part)
  /-- A number above those of the code points. -/
  | noCodePoint
  /-- A number that is even too large to be looked up among the code points. -/
  | oversized
  /-- A list or a mapping that holds itself, or too many of them inside each other. -/
  | endless
  /-- A directory stands where a file was expected. -/
  | isDirectory
  /-- A file stands where a directory is to be made. -/
  | fileExists
  /-- A file stands where a directory was expected. -/
  | notDirectory
  /-- A name that is too long for a file. -/
  | nameTooLong
  /-- A closing tag in the markup of a text closes nothing, or a tag that cannot be read. -/
  | malformedMarkup
  deriving DecidableEq, Inhabited

namespace Fault

/-- The largest number of decimal digits that an integer is read from or written with. -/
def maxDigits : Nat := 4300

/-- The wording for an integer with too many digits. -/
def digitsMessage (digits : Option Nat) : Text :=
  let limit : Text := "Exceeds the limit (" ++ Text.ofNat maxDigits ++
    " digits) for integer string conversion"
  let count : Text := match digits with
    | some n => ": value has " ++ Text.ofNat n ++ " digits"
    | none => []
  limit ++ count ++ "; use sys.set_int_max_str_digits() to increase the limit"

/-- The wording of a fault, where it has one. -/
def message? : Fault → Option Text
  | unknownMode spelling => some (spelling ++ " is not a valid ThemeMode")
  | unknownThemeKeys spelling => some (spelling ++ " is not a valid ThemeKeyMode")
  | unreadableInteger base text =>
    some ("invalid literal for int() with base " ++ Text.ofNat base ++ ": " ++
      text.quoted.take 200)
  | unreadableNumber text => some ("could not convert string to float: " ++ text.quoted)
  | tooManyDigits digits => some (digitsMessage digits)
  | noSuchMoment part => some part.message
  | notDecimal part => some part.message
  | noCodePoint => some "chr() arg not in range(0x110000)"
  | _ => none

end Fault

/-- Whether a scalar is no integer with too many digits. -/
def Scalar.isWritable : Scalar → Bool
  | .int n => n.natAbs < Nat.pow 10 Fault.maxDigits
  | _ => true

/-- Why something failed: for a reason of its own kind, or since a value could not be used at
all. -/
inductive Failure (ε : Type)
  | error (e : ε)
  | fault (f : Fault)

theorem bind_eq_ok_iff {ε α β : Type} {x : Except ε α} {f : α → Except ε β} {b : β} :
    x >>= f = .ok b ↔ ∃ a, x = .ok a ∧ f a = .ok b := by
  cases x with
  | error e => exact ⟨nofun, nofun⟩
  | ok a =>
    refine ⟨fun h => ⟨a, rfl, h⟩, ?_⟩
    rintro ⟨a', ha, h⟩
    cases ha
    exact h

theorem map_eq_ok_iff {ε α β : Type} {x : Except ε α} {f : α → β} {b : β} :
    f <$> x = .ok b ↔ ∃ a, x = .ok a ∧ f a = b := by
  cases x with
  | error e => exact ⟨nofun, nofun⟩
  | ok a =>
    refine ⟨fun h => ⟨a, rfl, Except.ok.inj h⟩, ?_⟩
    rintro ⟨a', ha, rfl⟩
    cases ha
    rfl

end ThemedCss
