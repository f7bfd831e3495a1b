import ThemedCss.Command.Run

/-!
# What commands show

* `Command.columns`: rows of cells with the columns below each other;
* `Output.display`, `Outcome.standardText`: what is shown of a command that succeeds;
* **`Outcome.errorText`**: the lines of the log, and the message of a command that fails.
-/

namespace ThemedCss.Command

/-- A cell filled with spaces up to a width. -/
def padded (width : Nat) (cell : Text) : Text :=
  cell ++ List.replicate (width - Text.cells cell) ' '

/-- Rows of cells with the columns below each other. -/
def columns (rows : List (List Text)) (count : Nat) : List Text :=
  let width (i : Nat) : Nat := Console.columnWidth (rows.map (·.getD i []))
  let widths := (List.range count).map width
  rows.map fun row => List.intercalate "  " ((row.zip widths).map fun (cell, w) => padded w cell)

/-- The line below a table. -/
def countLine (rows : List Row) : Text := Text.ofNat rows.length ++ " variable(s) shown"

/-- The text of what a command shows. -/
def Output.display : Output → Text
  | .text t => t
  | .table rows lines =>
    Text.unlines (columns (headings :: lines) headings.length ++ [[], countLine rows, []])

/-- What is shown of a command that succeeds. -/
def Outcome.standardText : Outcome → Text
  | success _ output => output.display
  | _ => []

/-- The lines of the log. -/
def Outcome.log : Outcome → List Text
  | failure log _ | success log _ => log
  | usage | crash _ => []

/-- The message of a command that does not succeed. -/
def Outcome.message? : Outcome → Option Text
  | usage => some "Usage: stylecraft [--version] (build | vars) SOURCE [OPTIONS]"
  | crash f => some ("Error: " ++ f.message?.getD "a value cannot be used")
  | failure _ cause => some cause.message
  | success .. => none

/-- The lines of the log, and the message of a command that fails. -/
def Outcome.errorText (o : Outcome) : Text :=
  (o.log ++ o.message?.toList).flatMap (· ++ ['\n'])

end ThemedCss.Command
