import ThemedCss.Document.Toml.Scalar
import ThemedCss.Document.Toml.Table

/-!
# Statements of TOML documents

* `Toml.skipLines`, `Toml.lineEnd`: blanks, comments and line ends;
* `Toml.value`: a value, with the arrays and the tables that are written in one piece;
* `Toml.Statement`: a value under a key, or a header;
* **`Toml.statements`**: the statements of a document.
-/

namespace ThemedCss.Toml

/-- The text from the end of the line of a comment that starts here, if one does. -/
def comment (t : Text) : Option Text :=
  match t with
  | '#' :: t =>
    let (body, rest) := t.span (· ≠ '\n')
    if body.any isControl then none else some rest
  | t => some t

/-- The text behind blanks, line ends and comments. -/
def skipLines (t : Text) : Option Text :=
  let start := t.dropWhile fun c => isBlank c || c = '\n'
  match comment start with
  | none => none
  | some rest => if _h : rest.length < t.length ∧ rest ≠ start then skipLines rest else some start
termination_by t.length

/-- The text behind the end of a line, on which nothing but a comment may stand. -/
def lineEnd (t : Text) : Option Text := do
  match ← comment (skip t) with
  | [] => some []
  | '\n' :: rest => some rest
  | _ => none

/-! ## Values -/

/-- The room for arrays and tables inside each other: an array takes two parts of it, and a table
three. -/
def maxRoom : Nat := 975

mutual

/-- The value at the front of a text; there is some room left for arrays and tables. -/
def value (room : Nat) (t : Text) : Got Value :=
  match t with
  | '[' :: rest =>
    if room < 2 then .error (.fault .endless)
    else (elements (room - 2) rest).map fun (vs, rest) => (.list vs, rest)
  | '\x7b' :: rest =>
    if room < 3 then .error (.fault .endless)
    else
      match skip rest with
      | '\x7d' :: behind => .ok (.map [], behind)
      | _ => (members (room - 3) [] rest).map fun (items, rest) => (.map (fields items), rest)
  | t =>
    if t.head? = some '"' ∨ t.head? = some '\'' then
      (required (quoted t)).map fun (text, rest) => (.text text, rest)
    else (scalar t).map fun (s, rest) => (.scalar s, rest)
termination_by (t.length, 0)

/-- The elements of an array up to its closing bracket; a comma may follow the last one. -/
def elements (room : Nat) (t : Text) : Got (List Value) :=
  match skipLines t with
  | none => .error .malformed
  | some (']' :: rest) => .ok ([], rest)
  | some start =>
    if _h : start.length ≤ t.length then
      match value room start with
      | .error p => .error p
      | .ok (v, rest) =>
        match skipLines rest with
        | some (']' :: behind) => .ok ([v], behind)
        | some (',' :: more) =>
          if _h : more.length < t.length then
            (elements room more).map fun (vs, rest) => (v :: vs, rest)
          else .error .malformed
        | _ => .error .malformed
    else .error .malformed
termination_by (t.length, 1)
decreasing_by all_goals (rw [Prod.lex_def]; simp only; omega)

/-- A key and its value. -/
def pair (room : Nat) (t : Text) : Got (List Text × Value) :=
  match path (skip t) with
  | some (keys, '=' :: rest) =>
    if _h : (skip rest).length < t.length then
      (value room (skip rest)).map fun (v, rest) => ((keys, v), rest)
    else .error .malformed
  | _ => .error .malformed
termination_by (t.length, 1)

/-- The members of a table up to its closing brace, after those read before. -/
def members (room : Nat) (items : Items) (t : Text) : Got Items :=
  match pair room t with
  | .error p => .error p
  | .ok ((keys, v), rest) =>
    match items.assign 0 v keys, skip rest with
    | some items, '\x7d' :: behind => .ok (items, behind)
    | some items, ',' :: more =>
      if _h : more.length < t.length then members room items more else .error .malformed
    | _, _ => .error .malformed
termination_by (t.length, 2)

end

/-! ## Statements -/

/-- A statement of a document. -/
inductive Statement
  /-- A value under a key. -/
  | assign (path : List Text) (v : Value)
  /-- The header of a table. -/
  | declare (path : List Text)
  /-- The header of one more of several tables. -/
  | append (path : List Text)

/-- The path between the brackets of a header. -/
def header (close : Text) (t : Text) : Option (List Text × Text) := do
  let (keys, rest) ← path (skip t)
  return (keys, ← close.isPrefixOf? rest)

/-- The statement at the front of a text. -/
def statement (t : Text) : Got Statement :=
  match t with
  | '[' :: '[' :: t => (required (header "]]" t)).map fun (keys, rest) => (.append keys, rest)
  | '[' :: t => (required (header "]" t)).map fun (keys, rest) => (.declare keys, rest)
  | t => (pair maxRoom t).map fun ((keys, v), rest) => (.assign keys v, rest)

/-- The statements of a document, one on a line, up to the first problem. -/
def statements (t : Text) : List Statement × Option Problem :=
  match skipLines t with
  | none => ([], some .malformed)
  | some [] => ([], none)
  | some start =>
    match statement start with
    | .error p => ([], some p)
    | .ok (s, rest) =>
      match lineEnd rest with
      | none => ([s], some .malformed)
      | some behind =>
        if _h : behind.length < t.length then
          let (more, problem) := statements behind
          (s :: more, problem)
        else ([s], some .malformed)
termination_by t.length

end ThemedCss.Toml
