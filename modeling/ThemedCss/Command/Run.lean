import ThemedCss.Command.Arguments
import ThemedCss.Console.Markup
import ThemedCss.Console.Table
import ThemedCss.Document.JsonText
import ThemedCss.Log.Session

/-!
# Running commands

* `Command.settingsOf`, `Command.sessionOf`: the settings of a command, and a session with its
  source applied;
* `Command.sizeText`: the size of a file in units of 1024 bytes, with one decimal place;
* `Command.writtenNote`: the note that a file was written;
* `Command.rows`, `Command.tableOf`: the variables of a session as rows, and as a table;
* `Command.toJson`: the variables of a session as a document;
* **`Command.run`**: how a command ends, and the files behind it.
-/

namespace ThemedCss.Command

/-- What a step of a command gives, or why the command does not get further. -/
abbrev Attempt (α : Type) := Except (Failure Cause) α

/-- An attempt with the errors of one of its parts as causes. -/
def attempt {ε α : Type} (cause : ε → Cause) (e : Except (Failure ε) α) : Attempt α :=
  e.mapError fun
    | .error err => .error (cause err)
    | .fault f => .fault f

/-! ## Settings and sources -/

/-- The settings file of a command: the given one, or one at or above the source. -/
def settingsPath (tree : FileTree) (source : Path) : Option Path → Attempt (Option Path)
  | some given => do
    if ← (tree.has given).mapError .fault then return some given
    else .error (.error (.noSettings given))
  | none => (Config.locate tree (tree.resolve source)).mapError .fault

/-- The settings of a command. -/
def settingsOf (tree : FileTree) (source : Path) (given : Option Path) : Attempt Config := do
  attempt .settings (Config.load tree (← settingsPath tree source given))

/-- The lines of the log for the settings of a command. -/
def settingsLog (tree : FileTree) (source : Path) (given : Option Path) : List Log.Line :=
  let searching := if given.isNone then Log.searching tree (tree.resolve source) else []
  match settingsPath tree source given, settingsOf tree source given with
  | .ok path, .ok _ => searching ++ Log.settings tree path
  | .ok _, .error _ => searching
  | .error _, _ => []

/-- The source of a command, if its file holds one. -/
def sourceOf (tree : FileTree) (path : Path) : Attempt (Option Source) :=
  attempt .source (Source.load tree path)

/-- A session with a source applied. -/
def sessionOf (config : Config) (source : Source) : Attempt Session :=
  match (Session.start config).applySource source with
  | (s, .ok ()) => .ok s
  | (_, .error f) => .error (.fault f)

/-- The lines of the log for a source. -/
def sourceLog (path : Path) : Option Source → List Log.Line
  | none => [Log.emptySource path]
  | some _ => []

/-! ## Building -/

/-- A number of bytes in units of 1024, with one decimal place; a half goes to the even digit. -/
def sizeText (bytes : Nat) : Text :=
  let tenths := Double.roundDiv (bytes * 10) 1024
  Text.ofNat (tenths / 10) ++ "." ++ Text.ofNat (tenths % 10)

/-- The note that a file was written; tags in its path are read as markup. -/
def writtenNote (path : Path) (css : Text) : Except Fault Text := do
  let note ← Markup.plain <| "[green]Wrote[/green] ".toList ++ path.text ++ " (" ++
    sizeText (Path.byteCount css) ++ " KB)"
  return Text.unlines (Console.linesWithin .fold Console.width note) ++ "\n"

/-- The lines of the log that are shown, with their levels and places. -/
def Build.shown (b : Build) (log : List Log.Line) : List Text :=
  (log.filter fun l => b.verbose || l.isWarning).map Log.Line.write

/-- The style sheet of a command, with the lines of its log. -/
def Build.sheet (b : Build) (config : Config) (path : Path) (loaded : Option Source) :
    Attempt (List Log.Line × Text) := do
  let config := { config with dedupe := config.dedupe && !b.noDedupe }
  let source := loaded.getD {}
  let s ← sessionOf config source
  let log := if b.verbose then
      Log.applying (Session.start config) source ++ Log.generating s (!b.noStyles)
    else []
  return (sourceLog path loaded ++ log, (s.css (!b.noStyles) none).2)

/-- How a failed attempt ends, behind some lines of the log. -/
def Outcome.ofFailure (log : List Text) : Failure Cause → Outcome
  | .error cause => .failure log cause
  | .fault f => .crash f

/-- The style sheet of a source is shown, or written to a file. -/
def Build.run (b : Build) (tree : FileTree) : Outcome × FileTree :=
  let settingsLog := settingsLog tree b.source b.config
  match settingsOf tree b.source b.config with
  | .error e => (.ofFailure (b.shown settingsLog) e, tree)
  | .ok config =>
    match sourceOf tree b.source with
    | .error e => (.ofFailure (b.shown settingsLog) e, tree)
    | .ok loaded =>
      match b.sheet config b.source loaded with
      | .error e => (.ofFailure (b.shown settingsLog) e, tree)
      | .ok (log, css) =>
        match b.output with
        | none => (.success (b.shown (settingsLog ++ log)) (.text css.withoutEscapes), tree)
        | some path =>
          match tree.write path css with
          | .error f => (.crash f, tree)
          | .ok written =>
            match writtenNote path css with
            | .error f => (.crash f, written)
            | .ok note => (.success (b.shown (settingsLog ++ log)) (.text note), written)

/-! ## Listing -/

/-- The variables of a session, partition by partition; those of some names are marked. -/
def rows (s : Session) (hoisted : List Text) : List Row :=
  Mode.all.flatMap fun mode => (s.registry.store.bindings mode).entries.map fun (name, value) =>
    ⟨mode, name, value, name ∈ hoisted⟩

/-- The variables of a session as a document. -/
def toJson (s : Session) : Text :=
  let partition (mode : Mode) : Text × Text :=
    (mode.name, Json.indented "  " ((s.registry.store.bindings mode).entries.map fun
      (name, value) => (name, Json.quote .ascii value)))
  Json.indented "" (Mode.all.map partition) ++ "\n"

/-- The headings of the columns of a table. -/
def headings : List Text := ["Partition", "Variable", "Value", "Hoisted"]

/-- The cells of a row. -/
def Row.cells (r : Row) : List Text :=
  [r.mode.name, r.name, r.value, if r.hoisted then "yes" else ""]

/-- Rows as a table; tags in names and values are read as markup. -/
def tableOf (rows : List Row) : Except Fault Output := do
  let cells ← rows.mapM fun r => r.cells.mapM Markup.plain
  return .table rows (Console.tableLines headings cells)

/-- What a listing shows of a session. -/
def Listing.output (l : Listing) (s : Session) : Except Fault Output :=
  let (s, hoisted) := s.optimize
  if l.json then .ok (.text (toJson s))
  else if rows s hoisted = [] then .ok (.text "No variables found.\n")
  else tableOf (rows s hoisted)

/-- The variables of a source are shown, with those that hoisting adds. -/
def Listing.run (l : Listing) (tree : FileTree) : Outcome :=
  let result : Attempt (List Text × Output) := do
    let config ← settingsOf tree l.source l.config
    let loaded ← sourceOf tree l.source
    let s ← sessionOf config (loaded.getD {})
    return ((sourceLog l.source loaded).map Log.Line.text, ← (l.output s).mapError .fault)
  match result with
  | .ok (log, output) => .success log output
  | .error e => .ofFailure [] e

/-- The name and the version of the program. -/
def versionText : Text := "stylecraft 0.4.0\n"

/-- How a command ends, and the files behind it. -/
def run (tree : FileTree) : Command → Outcome × FileTree
  | .version => (.success [] (.text versionText), tree)
  | .build b => b.run tree
  | .list l => (l.run tree, tree)

/-! ## Files of commands -/

/-- The files that a source and its settings may be in. -/
def inputs (tree : FileTree) (source : Path) : Option Path → List Path
  | some given => [source, given]
  | none => source :: (tree.resolve source).ancestors.flatMap fun directory =>
      [directory.child Config.fileName, directory.child Config.projectName]

/-- The files that a command may read. -/
def reads (tree : FileTree) : Command → List Path
  | .version => []
  | .build b => inputs tree b.source b.config
  | .list l => inputs tree l.source l.config

/-- The file that a command may write. -/
def writes? : Command → Option Path
  | .build b => b.output
  | _ => none

/-- How the command ends that some arguments spell, and the files behind it. -/
def runArguments (tree : FileTree) (arguments : List Text) : Outcome × FileTree :=
  match ofArguments? arguments with
  | some command => command.run tree
  | none => (.usage, tree)

end ThemedCss.Command
