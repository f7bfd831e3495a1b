/-!
# Text

A text is the list of its code points; string literals are read as texts wherever one is expected.

* `Text.lines`, `Text.unlines`: a text as the lines between its line feeds, and back;
* `Text.contains`: occurrence of one text in another;
* `Text.ofNat`, `Text.ofInt`: decimal digits;
* **`Text.unlines_lines`**: splitting into lines loses nothing.
-/

namespace ThemedCss

/-- A text, as the list of its code points. -/
abbrev Text := List Char

instance : Coe String Text := ⟨String.toList⟩

instance (t : Text) (ts : List Text) : Decidable (t ∈ ts) := List.instDecidableMemOfLawfulBEq t ts

namespace Text

/-- One more code point at the start of the first of some pieces. -/
def consHead (c : Char) : List Text → List Text
  | [] => [[c]]
  | p :: ps => (c :: p) :: ps

@[simp] theorem consHead_ne_nil (c : Char) (ps : List Text) : consHead c ps ≠ [] := by
  cases ps <;> simp [consHead]

theorem consHead_append (c : Char) {ps : List Text} (h : ps ≠ []) (qs : List Text) :
    consHead c (ps ++ qs) = consHead c ps ++ qs := by
  cases ps with
  | nil => exact absurd rfl h
  | cons p ps => rfl

/-- The lines of a text: a line feed ends one line and starts the next. -/
def lines : Text → List Text
  | [] => [[]]
  | c :: t => if c = '\n' then [] :: lines t else consHead c (lines t)

/-- Lines joined by line feeds. -/
def unlines (ls : List Text) : Text := List.intercalate "\n" ls

/-- Whether a text occurs somewhere in another. -/
def contains (part : Text) : Text → Bool
  | [] => part.isEmpty
  | c :: t => part.isPrefixOf (c :: t) || contains part t

/-- The decimal digits of a number. -/
def ofNat (n : Nat) : Text := Nat.toDigits 10 n

/-- The decimal digits of an integer, after a minus sign when it is negative. -/
def ofInt : Int → Text
  | .ofNat n => ofNat n
  | .negSucc n => '-' :: ofNat (n + 1)

/-- The order of texts by code point; a text comes before its extensions. -/
def precedes : Text → Text → Bool
  | [], _ => true
  | _ :: _, [] => false
  | a :: s, b :: t => if a = b then precedes s t else decide (a.toNat < b.toNat)

/-- A text has at least one line. -/
theorem lines_ne_nil (t : Text) : lines t ≠ [] := by
  cases t with
  | nil => simp [lines]
  | cons c t => by_cases hc : c = '\n' <;> simp [lines, hc]

/-- Joining the lines of a text gives the text. -/
theorem unlines_lines (t : Text) : unlines (lines t) = t := by
  induction t with
  | nil => rfl
  | cons c t ih =>
    obtain ⟨l, ls, h⟩ := List.exists_cons_of_ne_nil (lines_ne_nil t)
    rw [h] at ih
    by_cases hc : c = '\n'
    · subst hc
      simpa [lines, h, unlines, List.intercalate, List.intersperse] using ih
    · cases ls <;>
        simpa [lines, h, hc, consHead, unlines, List.intercalate, List.intersperse] using ih

end Text

end ThemedCss
