import ThemedCss.Fault
import ThemedCss.Value

/-!
# Values taken for something else

What a call gets from a value that it takes for a text or for a sequence.

* `Value.asText`, `Value.asPart`: a text;
* `Value.asKey?`, `Value.key`: a key;
* `Value.twice`: a value two times;
* `Value.items`: the items of a list, the keys of a mapping, the code points of a text;
* **`Value.texts`**: items that are all texts.
-/

namespace ThemedCss.Value

/-- A value as a text whose spelling is looked at. -/
def asText : Value → Except Fault Text
  | .scalar (.text t) => .ok t
  | _ => .error .notText

/-- A value as a text that is put together with others, or searched. -/
def asPart : Value → Except Fault Text
  | .scalar (.text t) => .ok t
  | _ => .error .notJoinable

/-- A value as a key: a list or a mapping is none, and what is no text names nothing. -/
def asKey? : Value → Except Fault (Option Text)
  | .scalar (.text t) => .ok (some t)
  | .scalar _ => .ok none
  | _ => .error .notKey

/-- A value as a key of any kind; values that are one key are one scalar then. -/
def key : Value → Except Fault Scalar
  | .scalar s => .ok s.asKey
  | _ => .error .notKey

/-- What a value holds when it is gone through: the items of a list, the keys of a mapping, the
code points of a text or the numbers of bytes. -/
def items : Value → Except Fault (List Value)
  | .list items => .ok items
  | .map fields => .ok (fields.map fun (k, _) => .scalar k)
  | .pair first second => .ok [first, second]
  | .set members => .ok (members.map Value.scalar)
  | .scalar (.text t) => .ok (t.map fun c => Value.text [c])
  | .scalar (.special s) =>
    if s.kind = .bytes then .ok (s.bytes.map fun n => .scalar (.int (Int.ofNat n)))
    else if (Scalar.special s).isAgain then .ok [.scalar (.special s)]
    else .error .notSequence
  | .scalar _ => .error .notSequence

/-- A value two times: sequences are repeated and numbers doubled. -/
def twice : Value → Except Fault Value
  | .scalar (.text t) => .ok (text (t ++ t))
  | .scalar (.int n) => .ok (.scalar (.int (2 * n)))
  | .scalar (.bool b) => .ok (.scalar (.int (2 * b.toInt)))
  | .scalar (.float x) => .ok (.scalar (.float (x.add x)))
  | .list items => .ok (.list (items ++ items))
  | _ => .error .notJoinable

/-- The items of a value, which must all be texts. -/
def texts (v : Value) : Except Fault (List Text) := do (← v.items).mapM asPart

end ThemedCss.Value
