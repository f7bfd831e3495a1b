import ThemedCss.Console.Action
import ThemedCss.Console.Emoji
import ThemedCss.Console.StyleName

/-!
# Markup

Tags in square brackets give a text its style: `[bold]` opens one and `[/bold]` or `[/]` closes
it. A backslash in front of a tag takes its meaning, and one in front of another bracket is left
out. Outside tags, names between colons become pictures.

* `Markup.Piece`, `Markup.pieces`: a text as plain pieces and tags;
* `Markup.Open`, `Markup.close`: the tags that are open;
* **`Markup.plain`**: the text that is shown of some markup.
-/

namespace ThemedCss.Markup

/-! ## Pieces -/

/-- A part of a text with markup. -/
inductive Piece
  /-- What is shown. -/
  | text (t : Text)
  /-- What stands between two brackets. -/
  | tag (body : Text)
  deriving DecidableEq

/-- A code point that a tag can start with. -/
def startsTag (c : Char) : Bool := ('a' ≤ c && c ≤ 'z') || c = '#' || c = '/' || c = '@'

/-- A text split at its first closing bracket; there is no opening one before it. -/
def closingSplit? : Text → Option (Text × Text)
  | [] => none
  | c :: t =>
    if c = ']' then some ([], t)
    else if c = '[' then none
    else (closingSplit? t).map fun (inner, rest) => (c :: inner, rest)

/-- The tag behind an opening bracket, and the rest. -/
def tag? : Text → Option (Text × Text)
  | [] => none
  | c :: t =>
    if startsTag c then (closingSplit? t).map fun (inner, rest) => (c :: inner, rest) else none

theorem length_closingSplit? {t inner rest : Text} (h : closingSplit? t = some (inner, rest)) :
    rest.length < t.length := by
  induction t generalizing inner with
  | nil => simp [closingSplit?] at h
  | cons c t ih =>
    rw [closingSplit?] at h
    split at h
    · simp_all
    · split at h
      · simp at h
      · cases hs : closingSplit? t with
        | none => simp [hs] at h
        | some p =>
          simp only [hs, Option.map_some, Option.some.injEq, Prod.mk.injEq] at h
          obtain ⟨-, rfl⟩ := h
          have := ih hs
          simp
          omega

theorem length_tag? {t inner rest : Text} (h : tag? t = some (inner, rest)) :
    rest.length < t.length := by
  cases t with
  | nil => simp [tag?] at h
  | cons c t =>
    rw [tag?] at h
    split at h
    · cases hs : closingSplit? t with
      | none => simp [hs] at h
      | some p =>
        simp only [hs, Option.map_some, Option.some.injEq, Prod.mk.injEq] at h
        obtain ⟨-, rfl⟩ := h
        have := length_closingSplit? hs
        simp
        omega
    · simp at h

/-- A tag behind some backslashes: two of them show one, and one that is left takes the meaning
of the tag. -/
def escaped (slashes : Nat) (body : Text) : List Piece :=
  let shown : List Piece :=
    if slashes < 2 then [] else [.text (List.replicate (slashes / 2) '\\')]
  shown ++ [if slashes % 2 = 1 then .text ('[' :: body ++ [']']) else .tag body]

/-- A text of which the pieces before some point are known, in reverse. -/
def textPiece (reversed : Text) : List Piece :=
  if reversed = [] then [] else [.text reversed.reverse]

/-- The pieces of a text behind some code points without markup, which stand in reverse. -/
def piecesBehind (before t : Text) : List Piece :=
  let slashes := t.takeWhile (· = '\\')
  match _h : t.dropWhile (· = '\\') with
  | [] => textPiece (slashes ++ before)
  | c :: rest =>
    if c = '[' then
      match _hs : tag? rest with
      | some (body, rest) => textPiece before ++ escaped slashes.length body ++ piecesBehind [] rest
      | none => piecesBehind (c :: slashes ++ before) rest
    else piecesBehind (c :: slashes ++ before) rest
termination_by t.length
decreasing_by
  all_goals
    have hle := (List.dropWhile_sublist (l := t) (· = '\\')).length_le
    rw [_h] at hle
    simp at hle
    try have := length_tag? _hs
    omega

/-- The pieces of a text. -/
def pieces (t : Text) : List Piece := piecesBehind [] t

/-! ## Tags -/

/-- A tag that is open. -/
structure Open where
  /-- Its normal form. -/
  name : Text
  /-- What stands behind its equals sign. -/
  action : Option Text
  deriving DecidableEq

/-- Whether a tag can be closed: its action, where it has one, must be readable. -/
def Open.isClosable (o : Open) : Bool :=
  o.name.head? ≠ some '@' || o.action.all fun action => action = [] || Action.isReadable action

/-- The tags that stay open behind a closing tag: without a name it closes the last one. The last
one comes first. -/
def close (stack : List Open) (name : Text) : Except Fault (List Open) := do
  let found ← if name = [] then pure stack.head? else do
    let name ← StyleName.normal name
    pure (stack.find? (·.name = name))
  match found with
  | some o => if o.isClosable then return stack.erase o else throw .malformedMarkup
  | none => throw .malformedMarkup

/-- The tags that are open behind one more tag. -/
def step (stack : List Open) (body : Text) : Except Fault (List Open) := do
  let name := body.takeWhile (· ≠ '=')
  match name with
  | '/' :: name => close stack (Text.strip name)
  | name =>
    return ⟨← StyleName.normal name, (body.dropWhile (· ≠ '=')).tail?⟩ :: stack

/-! ## What is shown -/

/-- Plain text without the backslashes in front of brackets. -/
def unescape : Text → Text
  | '\\' :: '[' :: t => '[' :: unescape t
  | c :: t => c :: unescape t
  | [] => []

/-- The controls that a console does not show. -/
def isHidden (c : Char) : Bool := c.toNat ∈ [7, 8, 11, 12, 13]

/-- What is shown of plain text. -/
def shown (t : Text) : Text := (Emoji.replace (unescape t)).filter fun c => !isHidden c

/-- What is shown of some pieces, behind some open tags. -/
def plainBehind (stack : List Open) : List Piece → Except Fault Text
  | [] => .ok []
  | .text t :: rest => (plainBehind stack rest).map (shown t ++ ·)
  | .tag body :: rest => do plainBehind (← step stack body) rest

/-- The text that is shown of some markup. -/
def plain (t : Text) : Except Fault Text := plainBehind [] (pieces t)

end ThemedCss.Markup
