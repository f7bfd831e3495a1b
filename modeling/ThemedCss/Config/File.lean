import ThemedCss.Config.Check
import ThemedCss.Document.Toml
import ThemedCss.File.Tree

/-!
# Settings files

Settings stand in a table of a file of their own, or of the file of a whole project.

* `Config.Error`, `Config.Error.message`: what is wrong with a settings file;
* `Config.section?`: the table of the settings in a document;
* **`Config.load`**: the settings of a file, which are the defaults when there is no file;
* `Config.foundIn`: the settings file of a directory;
* **`Config.locate`**: the settings file of the nearest directory that has one.
-/

namespace ThemedCss.Config

/-- What is wrong with a settings file. -/
inductive Error
  /-- It is no document of its format. -/
  | malformed (path : Text)
  /-- The settings are no table. -/
  | notTable (path : Text)
  /-- Settings with issues. -/
  | invalid (path : Text) (issues : List Issue)

/-- The wording of an error, up to the details of malformed files and issues. -/
def Error.message : Error → Text
  | malformed path => "Invalid TOML in " ++ path
  | notTable path => "[stylecraft] in " ++ path ++ " must be a table"
  | invalid path _ => "Invalid stylecraft configuration in " ++ path

/-- Whether the wording of an error leaves out details. -/
def Error.isAbridged : Error → Bool
  | notTable _ => false
  | _ => true

/-- The issues behind an error. -/
def Error.issues : Error → List Issue
  | invalid _ issues => issues
  | _ => []

/-- Why there are no settings. -/
abbrev Failure := ThemedCss.Failure Error

/-! ## Sections -/

/-- The name of a file of settings only. -/
def fileName : Text := "stylecraft.toml"

/-- The name of the file of a project. -/
def projectName : Text := "pyproject.toml"

/-- The key of the table with the settings. -/
def sectionKey : Text := "stylecraft"

/-- The key of the table around it in the file of a project. -/
def toolKey : Text := "tool"

/-- The value of the settings in the document of a file: the file of a project has it inside
another table. -/
def section? (path : Path) (document : List (Scalar × Value)) : Except Fault (Option Value) :=
  if path.name = projectName then
    match Value.field? toolKey document with
    | none => .ok none
    | some (.map tools) => .ok (Value.field? sectionKey tools)
    | some _ => .error .notMapping
  else .ok (Value.field? sectionKey document)

/-- The settings in the document of a file. -/
def ofDocument (path : Path) (document : List (Scalar × Value)) : Except Failure Config :=
  match section? path document with
  | .error f => .error (.fault f)
  | .ok none => .ok {}
  | .ok (some (.map fields)) =>
    (ofFields fields).mapError fun issues => .error (.invalid path.text issues)
  | .ok (some _) => .error (.error (.notTable path.text))

/-! ## Files -/

/-- The settings in the text of a file. -/
def ofText (path : Path) (text : Text) : Except Failure Config :=
  match Toml.parse text with
  | .ok document => ofDocument path document
  | .error (.fault f) => .error (.fault f)
  | .error .malformed => .error (.error (.malformed path.text))

/-- The settings of what a path leads to. -/
def ofEntry (path : Path) : FileTree.Entry → Except Failure Config
  | .directory => .error (.fault .isDirectory)
  | .file text => ofText path text

/-- The settings of a file; without a file they are the defaults. -/
def load (tree : FileTree) : Option Path → Except Failure Config
  | none => .ok {}
  | some path => do
    match ← (tree.find path).mapError .fault with
    | none => return {}
    | some entry => ofEntry path entry

/-- Whether the document of a project mentions settings: as a table among its tools, or in what
else stands for the tools. -/
def mentionsSection (document : List (Scalar × Value)) : Except Fault Bool :=
  match Value.field? toolKey document with
  | none => .ok false
  | some (.map tools) => .ok (Value.field? sectionKey tools).isSome
  | some (.list items) => .ok (items.any fun
    | .scalar s => s = .text sectionKey
    | _ => false)
  | some (.scalar (.text t)) => .ok (Text.contains sectionKey t)
  | some _ => .error .notSequence

/-- Whether a project has settings; one that cannot be read has none. -/
def projectMentions : Option FileTree.Entry → Except Fault Bool
  | none => .ok false
  | some .directory => .error .isDirectory
  | some (.file text) =>
    match Toml.parse text with
    | .error .malformed => .ok false
    | .error (.fault f) => .error f
    | .ok document => mentionsSection document

/-- The settings file of a directory: its own one, or that of a project with settings. -/
def foundIn (tree : FileTree) (directory : Path) : Except Fault (Option Path) := do
  if ← tree.has (directory.child fileName) then return some (directory.child fileName)
  else
    let project := directory.child projectName
    return if ← projectMentions (← tree.find project) then some project else none

/-- The settings file of the first of some directories that has one. -/
def firstIn (tree : FileTree) : List Path → Except Fault (Option Path)
  | [] => .ok none
  | d :: directories =>
    match foundIn tree d with
    | .ok none => firstIn tree directories
    | found => found

/-- The directories that are searched for settings: those at and above a path. -/
def searched (tree : FileTree) (start : Path) : Except Fault (List Path) := do
  return (if (← tree.find start) = some .directory then start else start.parent).ancestors

/-- The settings file of the nearest directory at or above a path that has one. -/
def locate (tree : FileTree) (start : Path) : Except Fault (Option Path) := do
  firstIn tree (← searched tree start)

end ThemedCss.Config
