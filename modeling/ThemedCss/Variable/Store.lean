import ThemedCss.OrderedMap
import ThemedCss.Theme

/-!
# The store of theme variables

* `Bindings`: custom properties with their values, in the order of their first writes;
* `Store`: one set of bindings for each mode;
* `Store.set`: a write; the two leading hyphens of a name may be left out;
* **`Store.get?_set`**: reading after a write.
-/

namespace ThemedCss

/-- Custom properties with their values. -/
abbrev Bindings := OrderedMap Text Text

/-- The theme variables of the three modes. -/
structure Store where
  root : Bindings := ∅
  light : Bindings := ∅
  dark : Bindings := ∅
  deriving DecidableEq

namespace Store

/-- The store without variables. -/
def empty : Store := {}

/-- The bindings of a mode. -/
def bindings (s : Store) : Mode → Bindings
  | .root => s.root
  | .light => s.light
  | .dark => s.dark

/-- The store with other bindings for a mode. -/
def withBindings (s : Store) (b : Bindings) : Mode → Store
  | .root => { s with root := b }
  | .light => { s with light := b }
  | .dark => { s with dark := b }

/-- A name with its two leading hyphens. -/
def dashed (name : Text) : Text := if ("--" : Text).isPrefixOf name then name else "--" ++ name

/-- The store with a variable written. -/
def set (s : Store) (m : Mode) (name value : Text) : Store :=
  s.withBindings ((s.bindings m).insert (dashed name) value) m

/-- The value of a variable in a mode; the name is taken as it is. -/
def get? (s : Store) (m : Mode) (name : Text) : Option Text := (s.bindings m).get? name

/-- Whether a mode has a variable. -/
def has (s : Store) (m : Mode) (name : Text) : Bool := (s.bindings m).contains name

/-- Whether any mode has a variable. -/
def defines (s : Store) (name : Text) : Bool := Mode.all.any fun m => s.has m name

/-- Whether a mode has no variables. -/
def isEmpty (s : Store) (m : Mode) : Bool := (s.bindings m).isEmpty

@[simp] theorem bindings_withBindings (s : Store) (b : Bindings) (m n : Mode) :
    (s.withBindings b m).bindings n = if m = n then b else s.bindings n := by
  cases m <;> cases n <;> rfl

theorem get?_set (s : Store) (m n : Mode) (name j value : Text) :
    (s.set m name value).get? n j =
      if m = n ∧ dashed name = j then some value else s.get? n j := by
  unfold set get?
  rw [bindings_withBindings]
  by_cases hm : m = n
  · subst hm; simp [OrderedMap.get?_insert]
  · simp [hm]

end Store

end ThemedCss
