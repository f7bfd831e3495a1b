import ThemedCss.Document.Read
import ThemedCss.Text.Blank

/-!
# References with a fallback

Finds `var(--name, fallback)` in the text of a style sheet. A fallback may hold balanced
parentheses and further references; these are found by reading the fallback in turn. A reference
that is never closed ends the search.

* `Opening`, `Opening.read?`: what stands before a fallback;
* `closingSplit?`: a text split at its first unmatched closing parenthesis;
* `Occurrence`: a reference with the text before and behind it;
* `occurrence?`: the first reference of a text;
* **`references`**: the outermost references of a text, with their places;
* **`allReferences`**: the references of a text at every depth.
-/

namespace ThemedCss.Variable

/-- The code points of a name. -/
def isNameChar (c : Char) : Bool :=
  ('a' ≤ c && c ≤ 'z') || ('A' ≤ c && c ≤ 'Z') || ('0' ≤ c && c ≤ '9') || c = '_' || c = '-'

/-- What stands before the fallback of a reference: its text, and the name in it. -/
structure Opening where
  text : Text
  name : Text
  deriving DecidableEq

/-- An opening at the front of a text, and the rest: `var(`, two hyphens, a name and a comma, with
blanks around the name and behind the comma. -/
def opening? (t : Text) : Option (Opening × Text) := do
  let inner ← ("var(" : Text).isPrefixOf? t
  let named ← ("--" : Text).isPrefixOf? (inner.dropWhile Text.isBlank)
  let name ← Option.guard (· ≠ []) (named.takeWhile isNameChar)
  let between := named.dropWhile isNameChar
  let behind ← ("," : Text).isPrefixOf? (between.dropWhile Text.isBlank)
  return (⟨"var(" ++ inner.takeWhile Text.isBlank ++ "--" ++ name ++ between.takeWhile Text.isBlank ++
    "," ++ behind.takeWhile Text.isBlank, name⟩, behind.dropWhile Text.isBlank)

/-- The text before the first closing parenthesis that matches none in it, and the text behind. -/
def closingSplit? (depth : Nat) : Text → Option (Text × Text)
  | [] => none
  | c :: t =>
    if c = '(' then (closingSplit? (depth + 1) t).map fun (inner, rest) => (c :: inner, rest)
    else if c = ')' then
      match depth with
      | 0 => some ([], t)
      | depth + 1 => (closingSplit? depth t).map fun (inner, rest) => (c :: inner, rest)
    else (closingSplit? depth t).map fun (inner, rest) => (c :: inner, rest)

/-- A reference in a text: what stands before it, its opening, its fallback with the blanks around
it, and what stands behind its closing parenthesis. -/
structure Occurrence where
  before : Text
  opening : Opening
  fallback : Text
  rest : Text
  deriving DecidableEq

/-- The first opening of a text with what stands before and behind it. -/
def firstOpening? : Text → Option (Text × Opening × Text)
  | [] => none
  | c :: t =>
    match opening? (c :: t) with
    | some (o, rest) => some ([], o, rest)
    | none => (firstOpening? t).map fun (before, o, rest) => (c :: before, o, rest)

/-- The first reference of a text. There is none when its opening is never closed. -/
def occurrence? (t : Text) : Option Occurrence :=
  match firstOpening? t with
  | none => none
  | some (before, o, behind) =>
    (closingSplit? 0 behind).map fun (fallback, rest) => ⟨before, o, fallback, rest⟩

/-! ## What is found makes up the text -/

theorem opening?_eq_append {t rest : Text} {o : Opening} (h : opening? t = some (o, rest)) :
    t = o.text ++ rest := by
  simp only [opening?, Option.bind_eq_bind, Option.bind_eq_some_iff, Option.pure_def,
    Option.some.injEq, Prod.mk.injEq, Option.guard_eq_some_iff] at h
  obtain ⟨inner, h₁, named, h₂, name, ⟨rfl, -⟩, behind, h₃, rfl, rfl⟩ := h
  have hrest {s t r : Text} (h : s.isPrefixOf? t = some r) : t = s ++ r := by
    induction s generalizing t with
    | nil => exact Option.some.inj h
    | cons c s ih =>
      cases t with
      | nil => cases h
      | cons d t =>
        obtain ⟨hcd, h⟩ := Option.ite_none_right_eq_some.mp h
        rw [beq_iff_eq.mp hcd, ih h, List.cons_append]
  have e₁ := List.takeWhile_append_dropWhile (p := Text.isBlank) (l := inner)
  have e₂ := List.takeWhile_append_dropWhile (p := isNameChar) (l := named)
  have e₃ := List.takeWhile_append_dropWhile (p := Text.isBlank) (l := named.dropWhile isNameChar)
  have e₄ := List.takeWhile_append_dropWhile (p := Text.isBlank) (l := behind)
  simp only [List.append_assoc]
  rw [e₄, ← hrest h₃, e₃, e₂, ← hrest h₂, e₁, ← hrest h₁]

theorem closingSplit?_eq_append {depth : Nat} {t inner rest : Text}
    (h : closingSplit? depth t = some (inner, rest)) : t = inner ++ ')' :: rest := by
  induction t generalizing depth inner with
  | nil => cases h
  | cons c t ih =>
    simp only [closingSplit?] at h
    split at h
    · obtain ⟨⟨a, b⟩, hab, he⟩ := Option.map_eq_some_iff.mp h
      cases he; simp [ih hab]
    · split at h
      · split at h
        · cases h; simp_all
        · obtain ⟨⟨a, b⟩, hab, he⟩ := Option.map_eq_some_iff.mp h
          cases he; simp [ih hab]
      · obtain ⟨⟨a, b⟩, hab, he⟩ := Option.map_eq_some_iff.mp h
        cases he; simp [ih hab]

theorem firstOpening?_eq_append {t before rest : Text} {o : Opening}
    (h : firstOpening? t = some (before, o, rest)) : t = before ++ o.text ++ rest := by
  induction t generalizing before with
  | nil => cases h
  | cons c t ih =>
    simp only [firstOpening?] at h
    split at h
    · rename_i o' rest' ho
      cases h
      simpa using opening?_eq_append ho
    · obtain ⟨⟨a, b, d⟩, hab, he⟩ := Option.map_eq_some_iff.mp h
      cases he; simp [ih hab]

/-- The text of an occurrence. -/
def Occurrence.text (f : Occurrence) : Text :=
  f.before ++ f.opening.text ++ f.fallback ++ ')' :: f.rest

/-- **An occurrence and what surrounds it make up the text.** -/
theorem occurrence?_text {t : Text} {f : Occurrence} (h : occurrence? t = some f) : f.text = t := by
  unfold occurrence? at h
  split at h
  · cases h
  · rename_i before o behind ho
    obtain ⟨⟨a, b⟩, hab, he⟩ := Option.map_eq_some_iff.mp h
    cases he
    rw [firstOpening?_eq_append ho, closingSplit?_eq_append hab]
    simp [Occurrence.text]

theorem occurrence?_rest_lt {t : Text} {f : Occurrence} (h : occurrence? t = some f) :
    f.rest.length < t.length := by
  rw [← occurrence?_text h]; simp [Occurrence.text]; omega

theorem occurrence?_fallback_lt {t : Text} {f : Occurrence} (h : occurrence? t = some f) :
    f.fallback.length < t.length := by
  rw [← occurrence?_text h]; simp [Occurrence.text]; omega

/-! ## References -/

/-- A reference with its places in a text, counted in code points: from `start` to before `stop`,
with the fallback and the blanks around it from `fallbackStart` to before `fallbackStop`. -/
structure Reference where
  name : Text
  fallback : Text
  start : Nat
  stop : Nat
  fallbackStart : Nat
  fallbackStop : Nat
  deriving DecidableEq

/-- The outermost references of a text that begins at an offset. -/
def referencesFrom (offset : Nat) (t : Text) : List Reference :=
  match h : occurrence? t with
  | none => []
  | some f =>
    have := occurrence?_rest_lt h
    let start := offset + f.before.length
    let fallbackStart := start + f.opening.text.length
    let fallbackStop := fallbackStart + f.fallback.length
    ⟨f.opening.name, Text.strip f.fallback, start, fallbackStop + 1, fallbackStart, fallbackStop⟩ ::
      referencesFrom (fallbackStop + 1) f.rest
termination_by t.length

/-- The outermost references of a text. -/
def references (t : Text) : List Reference := referencesFrom 0 t

theorem strip_length_le (t : Text) : (Text.strip t).length ≤ t.length := by
  unfold Text.strip Text.stripRight Text.stripLeft
  refine Nat.le_trans ?_ (List.dropWhile_sublist Text.isBlank).length_le
  rw [List.length_reverse]
  exact Nat.le_trans (List.dropWhile_sublist _).length_le (by simp)

/-- The names and fallbacks of the references of a text at every depth; those inside a fallback
follow the one that they are in. -/
def allReferences (t : Text) : List (Text × Text) :=
  match h : occurrence? t with
  | none => []
  | some f =>
    have := occurrence?_rest_lt h
    have := occurrence?_fallback_lt h
    have := strip_length_le f.fallback
    (f.opening.name, Text.strip f.fallback) ::
      allReferences (Text.strip f.fallback) ++ allReferences f.rest
termination_by t.length

end ThemedCss.Variable
