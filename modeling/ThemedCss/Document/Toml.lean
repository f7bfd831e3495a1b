import ThemedCss.Document.Toml.Statement
import ThemedCss.Text.LineEnd

/-!
# TOML documents

Reads the data format of TOML into values.

* `Toml.Draft`: a document after some of its statements;
* **`Toml.parse`**: the fields of a document, or what is wrong with it.
-/

namespace ThemedCss.Toml

/-- A document after some statements: its tables, and the section that the next ones are in. -/
structure Draft where
  items : Items := []
  header : List Text := []
  section_ : Nat := 0

/-- The document after one more statement. -/
def Draft.add (d : Draft) : Statement → Option Draft
  | .assign path v => do
    return { d with items := ← d.items.within (Items.assign d.section_ v path) d.header }
  | .declare path => do return ⟨← d.items.declare path, path, d.section_ + 1⟩
  | .append path => do return ⟨← d.items.append path, path, d.section_ + 1⟩

/-- The fields of a document. Statements that cannot be followed are a problem of their own, which
counts before those further on. -/
def parse (document : Text) : Except Problem (List (Scalar × Value)) := do
  let (statements, problem) := statements (Text.joinLineEnds document)
  let draft ← required (statements.foldlM Draft.add {})
  match problem with
  | some p => .error p
  | none => return fields draft.items

end ThemedCss.Toml
