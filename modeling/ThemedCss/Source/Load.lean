import ThemedCss.Document.Json
import ThemedCss.Document.Toml
import ThemedCss.Document.Yaml
import ThemedCss.File.Tree
import ThemedCss.Source.Extent

/-!
# Source files

* `Source.Format`: the data formats of source files, told by their suffix;
* `Format.read`: the document in a file;
* **`Source.load`**: the source in a file; an empty document holds none.
-/

namespace ThemedCss.Source

/-- A data format of source files. -/
inductive Format
  | json
  | yaml
  | toml
  deriving DecidableEq

namespace Format

/-- The format that a suffix in small letters stands for. -/
def ofSuffix? (suffix : Text) : Option Format :=
  if suffix = (".json" : Text) then some json
  else if suffix = (".yaml" : Text) ∨ suffix = (".yml" : Text) then some yaml
  else if suffix = (".toml" : Text) then some toml
  else none

/-- The name of a format. -/
def name : Format → Text
  | json => "JSON"
  | yaml => "YAML"
  | toml => "TOML"

/-- The value of the document in a file. -/
def read (format : Format) (path : Path) (text : Text) : Except Failure Value :=
  let malformed (reason : Option Text) : Failure :=
    .error (.malformed format.name path.text reason)
  match format with
  | json =>
    match Json.parse text with
    | .ok v => .ok v
    | .error e => .error (match e.fault? with
      | some f => .fault f
      | none => malformed (some e.message))
  | yaml => (Yaml.parse text).mapError fun
    | .fault f => .fault f
    | _ => malformed none
  | toml =>
    match Toml.parse text with
    | .ok fields => .ok (.map fields)
    | .error (.fault f) => .error (.fault f)
    | .error .malformed => .error (malformed none)

end Format

/-- The source that the value of a document stands for; null stands for none. -/
def ofContent (path : Path) : Value → Except Failure (Option Source)
  | .scalar .null => .ok none
  | .map fields => some <$> ofValue (.map fields)
  | _ => .error (.error (.notMapping path.text))

/-- The source that the value of a document stands for, unless it cannot be worked on. -/
def ofDocument (path : Path) (document : Value) : Except Failure (Option Source) := do
  let source ← ofContent path document
  match source >>= fault? with
  | some f => .error (.fault f)
  | none => return source

/-- The source in what a path leads to. -/
def ofEntry (format : Format) (path : Path) : Option FileTree.Entry → Except Failure (Option Source)
  | none => .error (.error (.missing path.text))
  | some .directory => .error (.fault .isDirectory)
  | some (.file text) => do ofDocument path (← format.read path (Text.unifyLineEnds text))

/-- The source in a file, if its document holds one. -/
def load (tree : FileTree) (path : Path) : Except Failure (Option Source) :=
  match Format.ofSuffix? (path.suffix.map Char.toLower) with
  | none => .error (.error (.unsupported path.suffix))
  | some format => do ofEntry format path (← (tree.find path).mapError .fault)

end ThemedCss.Source
