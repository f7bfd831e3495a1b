import ThemedCss.Value.Count
import ThemedCss.Value.Items
import ThemedCss.Variable.Name
import ThemedCss.Variable.Reference
import ThemedCss.Variable.Store
import ThemedCss.Variable.Usage

/-!
# Hoisting fallbacks

A fallback that is used often enough becomes the value of a root variable; afterwards the
references whose fallback the root holds are written without it.

* `Registry`: the theme variables, and the use of fallbacks;
* `Registry.trackValue`: one more use of a value;
* `Registry.resolve`, `Registry.resolveValue`: the text of a reference;
* `Registry.scan`: the uses in a text are counted;
* **`Registry.hoist`**: literals, in the order in which they came, are promoted to the first of
  their references that is used often enough and is not taken;
* `Registry.hoistAt`, `Registry.processAt`: the same with a threshold of any kind;
* **`shorten`**: references lose the fallbacks that the root holds.
-/

namespace ThemedCss

open Variable

/-- The theme variables, and the use of fallbacks. -/
structure Registry where
  store : Store := {}
  table : UsageTable := ∅
  deriving DecidableEq

/-- A reference without a fallback. -/
def bareReference (reference : Text) : Text := "var(" ++ ofReference reference ++ ")"

/-- A reference with a fallback. -/
def inlineReference (reference fallback : Text) : Text :=
  "var(" ++ ofReference reference ++ ", " ++ fallback ++ ")"

namespace Registry

/-- The registry with one more use of a literal behind a reference. -/
def track (r : Registry) (reference value : Text) : Registry :=
  { r with table := r.table.track reference value }

/-- The text of a reference to a value: without the value when the root holds just this one, or
when the light partition has the name. -/
def resolve (r : Registry) (reference value : Text) : Text :=
  if r.store.get? .root (ofReference reference) = some value ∨
      r.store.has .light (ofReference reference) then
    bareReference reference
  else inlineReference reference value

/-- The registry with one more use of a literal behind a reference. What is neither a key nor a
text cannot be counted; a literal whose reference is none has an entry without uses. -/
def trackValue (r : Registry) (reference value : Value) : Registry × Except Fault Unit :=
  match value, reference with
  | .scalar (.text v), .scalar (.text ref) => (r.track ref v, .ok ())
  | .scalar (.text v), _ =>
    ({ r with table := r.table.insert v (r.table.entryD v) }, .error .notKey)
  | _, _ => (r, .error .notKey)

/-- The text of a reference to a value of any kind. A root holds texts alone, and it holds null
under the names that it has not. -/
def resolveValue (r : Registry) (reference : Text) : Value → Text
  | .scalar (.text t) => r.resolve reference t
  | v =>
    let variable_ := ofReference reference
    if (v.isNull ∧ ¬ r.store.has .root variable_) ∨ r.store.has .light variable_ then
      bareReference reference
    else inlineReference reference v.display

/-- The registry with the uses in a text counted. -/
def scan (r : Registry) (css : Text) : Registry :=
  (allReferences css).foldl (fun r (reference, value) => r.track reference value) r

/-- The first reference of a literal that is used often enough and whose root variable is free or
holds the literal already. -/
def candidate? (threshold : Nat) (root : Bindings) (u : Usage) : Option Text :=
  (u.uses.entries.find? fun (reference, count) =>
    threshold ≤ count ∧
      (root.get? (ofReference reference)).all fun current => current = u.value).map Prod.fst

/-- The registry with a literal marked as promoted. -/
def mark (r : Registry) (literal : Text) (u : Usage) : Registry :=
  { r with table := r.table.insert literal { u with promoted := true } }

/-- The registry with one literal promoted, if it can be, and the name that this adds to the
root. -/
def promote (threshold : Nat) (r : Registry) (literal : Text) (u : Usage) :
    Registry × Option Text :=
  if u.promoted then (r, none)
  else match candidate? threshold r.store.root u with
    | none => (r, none)
    | some reference =>
      let marked := r.mark literal u
      if r.store.has .root (ofReference reference) then (marked, none)
      else
        ({ marked with store := r.store.set .root (ofReference reference) u.value },
          some (ofReference reference))

/-- The registry with the literals of some entries promoted in turn, and the names added. -/
def promoteAll (threshold : Nat) (r : Registry) : List (Text × Usage) → Registry × List Text
  | [] => (r, [])
  | (literal, u) :: entries =>
    let (r, name) := promote threshold r literal u
    let (r, names) := promoteAll threshold r entries
    (r, name.toList ++ names)

/-- The registry with every literal promoted that can be, and the names added to the root. -/
def hoist (threshold : Nat) (r : Registry) : Registry × List Text :=
  promoteAll threshold r r.table.entries

/-- Whether promoting would compare a count. -/
def comparesCount (r : Registry) : Bool :=
  r.table.entries.any fun (_, u) => !u.promoted && !u.uses.isEmpty

/-- The registry after hoisting for a threshold of any kind. -/
def hoistAt (threshold : Value) (r : Registry) : Registry × Except Fault (List Text) :=
  match threshold.leastCount with
  | .ok (some n) =>
    let (r, names) := r.hoist n
    (r, .ok names)
  | .ok none => (r, .ok [])
  | .error f => (r, if r.comparesCount then .error f else .ok [])

end Registry

/-- A text with the fallbacks removed that the root holds under the names of their references. A
fallback that stays is itself shortened. -/
def shorten (root : Bindings) (t : Text) : Text :=
  match h : occurrence? t with
  | none => t
  | some f =>
    have := occurrence?_rest_lt h
    have := occurrence?_fallback_lt h
    f.before ++
      (if root.get? (ofReference f.opening.name) = some (Text.strip f.fallback) then
        bareReference f.opening.name
      else f.opening.text ++ shorten root f.fallback ++ ")") ++
      shorten root f.rest
termination_by t.length

namespace Registry

/-- The registry after hoisting, and chunks of text shortened for its root. -/
def process (threshold : Nat) (r : Registry) (chunks : List Text) : Registry × List Text :=
  let (r, _) := r.hoist threshold
  (r, chunks.map (shorten r.store.root))

/-- The registry after hoisting for a threshold of any kind, and the chunks that a value holds
shortened for its root. -/
def processAt (threshold : Value) (r : Registry) (chunks : Value) :
    Registry × Except Fault (List Text) :=
  let (r, hoisted) := r.hoistAt threshold
  (r, do
    let _ ← hoisted
    return (← chunks.texts).map (shorten r.store.root))

end Registry

end ThemedCss
