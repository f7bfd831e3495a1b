import ThemedCss.Text

/-!
# Reading from the front of a text

A reader takes something from the front of a text and hands on a rest that is shorter, so that a
loop of readers ends with the text.

* `Read`: what was read, and the shorter rest;
* `Read.map`, `Read.within`: another value, and a longer text.
-/

namespace ThemedCss

/-- Something read from the front of a text, and the shorter rest. -/
structure Read (α : Type) (t : Text) where
  value : α
  rest : Text
  shorter : rest.length < t.length

namespace Read

variable {α β : Type} {s t : Text}

/-- The same rest with another value. -/
def map (f : α → β) (r : Read α t) : Read β t := ⟨f r.value, r.rest, r.shorter⟩

/-- What was read from a text was read from any text that is not shorter. -/
def within (h : s.length ≤ t.length) (r : Read α s) : Read α t :=
  ⟨r.value, r.rest, Nat.lt_of_lt_of_le r.shorter h⟩

end Read

end ThemedCss
