import ThemedCss.Fault
import ThemedCss.Value.Property

/-!
# Making texts of values

No text can be made of an integer with too many digits, nor of lists and mappings that stand inside
each other too often. Either is found when the writing comes to it.

* `Value.room`: how many calls may stand inside each other;
* `Value.literalFault?`, `Value.fault?`: what is found first on the way through a value;
* **`Value.format`**: the text of a value as a property value, or why there is none.
-/

namespace ThemedCss

/-- Why no text can be made of a scalar. -/
def Scalar.fault? (s : Scalar) : Option Fault :=
  if s.isWritable then none else some (.tooManyDigits none)

namespace Value

/-- How many calls may stand inside each other while a value is written. It stands for the recursion
limit of the interpreter, which is a thousand calls, less those that are under way already. -/
def room : Nat := 960

mutual

/-- Why a value cannot be spelled inside a list or a mapping. What may hold collections takes a call. -/
def literalFault? (room : Nat) : Value → Option Fault
  | scalar s => s.fault?
  | list items => if room < 1 then some .endless else literalFaultIn? (room - 1) items
  | map fields => if room < 1 then some .endless else fieldFault? (room - 1) fields
  | pair first second =>
    if room < 1 then some .endless
    else (first.literalFault? (room - 1)).or (second.literalFault? (room - 1))
  | set members => members.findSome? Scalar.fault?

/-- Why one of some values cannot be spelled. -/
def literalFaultIn? (room : Nat) : List Value → Option Fault
  | [] => none
  | v :: items => (v.literalFault? room).or (literalFaultIn? room items)

/-- Why a key or a value of a mapping cannot be spelled. -/
def fieldFault? (room : Nat) : List (Scalar × Value) → Option Fault
  | [] => none
  | (k, v) :: fields => k.fault?.or ((v.literalFault? room).or (fieldFault? room fields))

end

mutual

/-- Why no property value can be made of a value. A list takes two calls, one that goes through its
items and one for each of them. -/
def fault? (room : Nat) : Value → Option Fault
  | scalar s => s.fault?
  | list items => if room < 2 then some .endless else itemFault? (room - 2) items
  | map fields => (map fields).literalFault? room
  | pair first second =>
    if room < 2 then some .endless
    else (first.fault? (room - 2)).or (second.fault? (room - 2))
  | set members => (set members).literalFault? room

/-- Why no property value can be made of one of some values. -/
def itemFault? (room : Nat) : List Value → Option Fault
  | [] => none
  | v :: items => (v.fault? room).or (itemFault? room items)

end

/-- The text of a value as a property value; null has none. -/
def format (v : Value) : Except Fault (Option Text) :=
  match v.fault? room with
  | some f => .error f
  | none => .ok v.css?

theorem format_of_fault? {v : Value} {f : Fault} (h : v.fault? room = some f) :
    v.format = .error f := by
  rw [format, h]

theorem format_eq_ok {v : Value} (h : v.fault? room = none) : v.format = .ok v.css? := by
  rw [format, h]

end Value

end ThemedCss
