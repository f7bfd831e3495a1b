import ThemedCss.Text

/-!
# The log

* `Log.Level`, `Log.Line`: what a command reports on its way;
* `Line.write`: a line of the log;
* `Line.isWarning`: the lines that are shown without being asked for.
-/

namespace ThemedCss.Log

/-- How much a line matters. -/
inductive Level
  | debug
  | info
  | warning
  deriving DecidableEq

/-- The name of a level. -/
def Level.name : Level → Text
  | debug => "DEBUG"
  | info => "INFO"
  | warning => "WARNING"

/-- A line of the log, and the part of the program that it comes from. -/
structure Line where
  level : Level := .debug
  place : Text
  text : Text
  deriving DecidableEq

/-- The text of a line with its level and place. -/
def Line.write (l : Line) : Text := l.level.name ++ " " ++ l.place ++ ": " ++ l.text

/-- Whether a line is shown without being asked for. -/
def Line.isWarning (l : Line) : Bool := l.level = .warning

end ThemedCss.Log
