import ThemedCss.Text

/-!
# Escape sequences

A console takes its orders from escape sequences: the escape control, an opening bracket, digits
and separators, and a letter.

* `Escape.sequence?`: a sequence at the front of a text;
* **`Text.withoutEscapes`**: a text without its sequences.
-/

namespace ThemedCss

namespace Escape

/-- The code points between the bracket and the letter. -/
def isParameter (c : Char) : Bool := ('0' ≤ c && c ≤ '9') || c = ';' || c = '?'

/-- A letter of the Latin alphabet, without accents. -/
def isLetter (c : Char) : Bool := ('a' ≤ c && c ≤ 'z') || ('A' ≤ c && c ≤ 'Z')

/-- What stands behind the parameters and the letter of a sequence. -/
def behindLetter? : Text → Option Text
  | [] => none
  | c :: t => if isParameter c then behindLetter? t else if isLetter c then some t else none

/-- What stands behind a sequence at the front of a text. -/
def sequence? : Text → Option Text
  | '\x1b' :: '[' :: t => behindLetter? t
  | _ => none

theorem length_behindLetter? {t rest : Text} (h : behindLetter? t = some rest) :
    rest.length < t.length := by
  induction t with
  | nil => simp [behindLetter?] at h
  | cons c t ih =>
    rw [behindLetter?] at h
    split at h
    · have := ih h
      simp
      omega
    · split at h <;> simp_all

theorem length_sequence? {t rest : Text} (h : sequence? t = some rest) :
    rest.length < t.length := by
  unfold sequence? at h
  split at h
  · have := length_behindLetter? h
    simp
    omega
  · simp at h

end Escape

/-- A text without its escape sequences. -/
def Text.withoutEscapes (t : Text) : Text :=
  match t with
  | [] => []
  | c :: t =>
    match _h : Escape.sequence? (c :: t) with
    | some rest => withoutEscapes rest
    | none => c :: withoutEscapes t
termination_by t.length
decreasing_by
  · exact Escape.length_sequence? _h
  · simp

end ThemedCss
