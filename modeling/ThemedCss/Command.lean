import ThemedCss.Config.File
import ThemedCss.Source.Load
import ThemedCss.Text.Escape

/-!
# Commands

* `Command`: what the program can be asked to do;
* `Command.Cause`: why a command fails;
* `Command.Output`, `Command.Row`: what a command shows;
* **`Command.Outcome`**: how a command ends.
-/

namespace ThemedCss

/-- What a style sheet is built from, and where it goes. -/
structure Command.Build where
  source : Path
  output : Option Path := none
  config : Option Path := none
  noStyles : Bool := false
  noDedupe : Bool := false
  verbose : Bool := false
  deriving DecidableEq

/-- What variables are listed of, and how. -/
structure Command.Listing where
  source : Path
  config : Option Path := none
  json : Bool := false
  deriving DecidableEq

/-- What the program can be asked to do. -/
inductive Command
  | version
  | build (b : Command.Build)
  | list (l : Command.Listing)
  deriving DecidableEq

namespace Command

/-- Why a command fails. -/
inductive Cause
  | noSettings (path : Path)
  | settings (e : Config.Error)
  | source (e : Source.Error)

/-- The wording for a cause. -/
def Cause.wording : Cause → Text
  | noSettings path => "Config not found: " ++ path.text
  | settings e => "Error: " ++ e.message
  | source e => "Error: " ++ e.message

/-- The message for a cause; escape sequences in a path are not shown. -/
def Cause.message (c : Cause) : Text := c.wording.withoutEscapes

/-- Whether the message for a cause leaves out details. -/
def Cause.isAbridged : Cause → Bool
  | noSettings _ => false
  | settings e => e.isAbridged
  | source e => e.isAbridged

/-- A variable of a partition, and whether hoisting has added it. -/
structure Row where
  mode : Mode
  name : Text
  value : Text
  hoisted : Bool
  deriving DecidableEq

/-- What a command shows. -/
inductive Output
  | text (t : Text)
  /-- Rows, with the lines that they take, cell by cell. -/
  | table (rows : List Row) (lines : List (List Text))

/-- How a command ends. -/
inductive Outcome
  /-- The arguments make no sense. -/
  | usage
  /-- A value could not be used at all. -/
  | crash (f : Fault)
  /-- It fails behind some lines of the log. -/
  | failure (log : List Text) (cause : Cause)
  | success (log : List Text) (output : Output)

/-- The exit code. -/
def Outcome.exitCode : Outcome → Nat
  | usage => 2
  | crash _ | failure .. => 1
  | success .. => 0

end Command

end ThemedCss
