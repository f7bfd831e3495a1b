import ThemedCss.Number.Written
import ThemedCss.Text.Quoted

/-!
# Values

The data that themes and styles are described with: scalars, lists, and mappings that keep the
order of their entries. A mapping may have keys other than texts.

* `Special`: what only documents hold;
* `Scalar`, `Value`;
* `Scalar.sameKey`: when two scalars name one entry of a mapping; a text names only its own;
* `Value.field?`: the value under a text key;
* `Value.isTrue`: neither null, false, zero nor empty;
* **`Value.display`**, `Value.literal`: how a value reads as text, and inside another value.
-/

namespace ThemedCss

/-- What a value is that only documents hold. -/
inductive Special.Kind
  | date
  | dateTime
  | time
  | bytes
  /-- A list inside itself, in the place where it comes again. -/
  | listAgain
  /-- A mapping inside itself, in the place where it comes again. -/
  | mappingAgain
  deriving DecidableEq

/-- A value that only documents hold, with its spellings. -/
structure Special where
  kind : Special.Kind
  /-- The spelling on its own. -/
  text : Text
  /-- The spelling inside a list or a mapping. -/
  literal : Text
  isEmpty : Bool := false
  /-- The numbers of bytes. -/
  bytes : List Nat := []
  /-- The millionths of a second up to a moment, when it is known where on Earth it is meant. -/
  instant : Option Int := none
  deriving DecidableEq

/-- A value without parts. -/
inductive Scalar
  | null
  | bool (b : Bool)
  | int (n : Int)
  | float (x : Double)
  | text (t : Text)
  | special (s : Special)
  deriving DecidableEq

/-- A value of a source file or of a call. -/
inductive Value
  | scalar (s : Scalar)
  | list (items : List Value)
  | map (fields : List (Scalar × Value))
  /-- A key and a value that stand for themselves. -/
  | pair (first second : Value)
  /-- Scalars without an order. -/
  | set (members : List Scalar)

instance : Coe Scalar Value := ⟨Value.scalar⟩

namespace Scalar

/-- What a scalar counts as when it is a key: truth values count as 0 and 1, a double without
fraction as an integer, and moments are told apart by their instant, if it is known. -/
def asKey : Scalar → Scalar
  | bool b => int (if b then 1 else 0)
  | float x => match x.integer? with
    | some n => int n
    | none => float x
  | special s => special (if s.instant.isSome then { s with text := [], literal := [] } else s)
  | s => s

/-- Whether two scalars are one key. -/
def sameKey (a b : Scalar) : Bool := a.asKey = b.asKey

theorem asKey_eq_text_iff {k : Scalar} {t : Text} : k.asKey = .text t ↔ k = .text t := by
  cases k with
  | float x =>
    unfold asKey
    dsimp only
    split <;> simp
  | _ => simp [asKey]

theorem sameKey_comm (a b : Scalar) : a.sameKey b = b.sameKey a := decide_eq_decide.mpr eq_comm

theorem sameKey_text_iff {t : Text} {k : Scalar} :
    (text t).sameKey k = true ↔ k = .text t := by
  unfold sameKey
  rw [decide_eq_true_iff, eq_comm]
  exact asKey_eq_text_iff

/-- Neither null, false, zero nor empty. -/
def isTrue : Scalar → Bool
  | null => false
  | bool b => b
  | int n => n != 0
  | float x => !x.isZero
  | text t => !t.isEmpty
  | special s => !s.isEmpty

/-- Whether a scalar marks the place where a mapping comes again inside itself. -/
def isMappingAgain : Scalar → Bool
  | special s => s.kind = .mappingAgain
  | _ => false

/-- Whether a scalar marks the place where a list or a mapping comes again inside itself. -/
def isAgain : Scalar → Bool
  | special s => s.kind = .listAgain || s.kind = .mappingAgain
  | _ => false

/-- Whether a scalar is a text. -/
def isText : Scalar → Bool
  | text _ => true
  | _ => false

/-- The text of a scalar. -/
def display : Scalar → Text
  | null => "None"
  | bool b => if b then "True" else "False"
  | int n => Text.ofInt n
  | float x => x.write .plain
  | text t => t
  | special s => s.text

/-- The spelling of a scalar inside a list or a mapping: texts are quoted there. -/
def literal : Scalar → Text
  | text t => t.quoted
  | special s => s.literal
  | s => s.display

end Scalar

namespace Value

/-- The null value. -/
def null : Value := .scalar .null

/-- A text as a value. -/
def text (t : Text) : Value := .scalar (.text t)

/-- Whether a value is null. -/
def isNull : Value → Bool
  | scalar .null => true
  | _ => false

/-- The value under a text key. -/
def field? (key : Text) : List (Scalar × Value) → Option Value
  | [] => none
  | (k, v) :: fields => if k = .text key then some v else field? key fields

/-- Neither null, false, zero nor empty. -/
def isTrue : Value → Bool
  | scalar s => s.isTrue
  | list items => !items.isEmpty
  | map fields => !fields.isEmpty
  | pair _ _ => true
  | set members => !members.isEmpty

/-- The spelling of a set by its members. -/
def setLiteral (members : List Scalar) : Text :=
  if members = [] then "set()"
  else "\x7b" ++ List.intercalate ", " (members.map Scalar.literal) ++ "\x7d"

mutual

/-- The spelling of a value inside a list or a mapping. -/
def literal : Value → Text
  | scalar s => s.literal
  | list items => "[" ++ List.intercalate ", " (literals items) ++ "]"
  | map fields => "\x7b" ++ List.intercalate ", " (fieldLiterals fields) ++ "\x7d"
  | pair first second => "(" ++ first.literal ++ ", " ++ second.literal ++ ")"
  | set members => setLiteral members

/-- The spellings of the items of a list. -/
def literals : List Value → List Text
  | [] => []
  | v :: items => v.literal :: literals items

/-- The spellings of the entries of a mapping. -/
def fieldLiterals : List (Scalar × Value) → List Text
  | [] => []
  | (k, v) :: fields => (k.literal ++ ": " ++ v.literal) :: fieldLiterals fields

end

/-- The text of a value: a text is shown as it is. -/
def display : Value → Text
  | scalar s => s.display
  | v => v.literal

/-- An entry written under a key: an earlier entry of the key keeps its place and spelling. -/
def put (key : Scalar) (v : Value) : List (Scalar × Value) → List (Scalar × Value)
  | [] => [(key, v)]
  | (k, w) :: fields =>
    if k.sameKey key then (k, v) :: fields else (k, w) :: put key v fields

/-- A text names only its own entry, so that a new one comes last. -/
theorem put_of_not_mem {k : Text} {fields : List (Scalar × Value)} (v : Value)
    (h : ∀ f ∈ fields, f.1 ≠ .text k) : put (.text k) v fields = fields ++ [(.text k, v)] := by
  induction fields with
  | nil => rfl
  | cons f fields ih =>
    have hkey : f.1.sameKey (.text k) ≠ true := by
      rw [Scalar.sameKey_comm]
      exact mt Scalar.sameKey_text_iff.mp (h f List.mem_cons_self)
    rw [put, if_neg hkey, ih fun g hg => h g (List.mem_cons_of_mem f hg), List.cons_append]

end Value

end ThemedCss
