import ThemedCss.Fault
import ThemedCss.Value

/-!
# Values that counts are compared with

What a count of something has to reach or may not exceed, from a value of any kind.

* `Value.leastCount`: the counts that do not stay below a value;
* **`Value.greatestCount`**: the counts that do not exceed a value.
-/

namespace ThemedCss.Value

/-- The least count that does not stay below a value; every count stays below an infinity, and
none below what is no number. -/
def leastCount : Value → Except Fault (Option Nat)
  | .scalar (.int n) => .ok (some n.toNat)
  | .scalar (.bool b) => .ok (some b.toNat)
  | .scalar (.float (.infinite false)) => .ok none
  | .scalar (.float x) => .ok (some ((x.negate.floor?.map (-·)).getD 0).toNat)
  | _ => .error .notJoinable

/-- The greatest integer up to which counts do not exceed a value; none exceeds an infinity, or
what is no number. -/
def greatestCount : Value → Except Fault (Option Int)
  | .scalar (.int n) => .ok (some n)
  | .scalar (.bool b) => .ok (some b.toInt)
  | .scalar (.float (.infinite true)) => .ok (some (-1))
  | .scalar (.float x) => .ok x.floor?
  | _ => .error .notJoinable

end ThemedCss.Value
