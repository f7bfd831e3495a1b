import ThemedCss.Config.Check
import ThemedCss.Session.Call

/-!
# Style sheet sources

A source describes themes, component variables and styles as data.

* `Source`: its entries;
* `Source.Error`, `Source.Error.message`: what is wrong with a source;
* **`Source.ofValue`**: the source that a value describes;
* **`Session.applySource`**: its entries as calls, themes first, then variables, then styles.
-/

namespace ThemedCss

/-- Variables, and the name that they stand below. -/
structure VariableEntry where
  name : Text := []
  values : List (Text × Value) := []

/-- Styles, and the selectors that share them, if there are any. -/
structure StyleEntry where
  selectors : Option (List Text) := none
  styles : List (Text × Style) := []

/-- The entries of a source. -/
structure Source where
  theme : List VariableEntry := []
  vars : List VariableEntry := []
  styles : List StyleEntry := []

/-- The values of an entry as one mapping. -/
def VariableEntry.mapping (e : VariableEntry) : Value :=
  .map (e.values.map fun (k, v) => (.text k, v))

/-- The styles of an entry as one tree. -/
def StyleEntry.tree (e : StyleEntry) : Style :=
  .rules (e.styles.map fun (k, s) => (.text k, s))

/-- The call for an entry of styles: selectors are named only when there are any. -/
def StyleEntry.call (e : StyleEntry) : Call :=
  match e.selectors with
  | some (s :: selectors) =>
    .createStyle (.selectors (.list ((s :: selectors).map Value.text))) (some e.tree)
  | _ => .createStyle (.style e.tree) none

namespace Source

/-- What is wrong with a source. -/
inductive Error
  /-- Sections that there are not. -/
  | unknownSections (names : List Text)
  /-- An entry of a section that is no mapping, and what it is. -/
  | entryKind (section_ kind : Text)
  /-- An entry with issues. -/
  | invalid (issues : List Issue)
  /-- A file of an unsupported kind, by its suffix. -/
  | unsupported (suffix : Text)
  /-- A file that there is not. -/
  | missing (path : Text)
  /-- A file that does not hold the format that its suffix says, and why. -/
  | malformed (format path : Text) (reason : Option Text)
  /-- A file that does not hold a mapping. -/
  | notMapping (path : Text)

/-- Why there is no source: it is faulty, or a value in it could not be used at all. -/
abbrev Failure := ThemedCss.Failure Error

/-- The suffixes of source files. -/
def suffixes : List Text := [".json", ".yaml", ".yml", ".toml"]

/-- The wording of an error, up to the details of issues and malformed files. -/
def Error.message : Error → Text
  | unknownSections names => "Unknown section(s): " ++ List.intercalate ", " names
  | entryKind section_ kind =>
    "'" ++ section_ ++ "' entries must be mappings, got " ++ kind
  | invalid _ => "Invalid stylesheet source"
  | unsupported suffix =>
    "Unsupported source type '" ++ suffix ++ "' (expected " ++ List.intercalate ", " suffixes ++ ")"
  | missing path => "Source not found: " ++ path
  | malformed format path reason =>
    "Invalid " ++ format ++ " in " ++ path ++ (match reason with
      | some r => ": " ++ r
      | none => [])
  | notMapping path => "Top level of " ++ path ++ " must be a mapping"

/-- Whether the wording of an error leaves out details. -/
def Error.isAbridged : Error → Bool
  | invalid _ => true
  | malformed _ _ reason => reason.isNone
  | _ => false

/-- The issues behind an error. -/
def Error.issues : Error → List Issue
  | invalid issues => issues
  | _ => []

/-! ## Sections -/

/-- The names of the sections. -/
def sections : List Text := ["theme", "vars", "styles"]

/-- The word for what a value is. -/
def kindName : Value → Text
  | .scalar .null => "NoneType"
  | .scalar (.bool _) => "bool"
  | .scalar (.int _) => "int"
  | .scalar (.float _) => "float"
  | .scalar (.text _) => "str"
  | .scalar (.special s) => match s.kind with
    | .date => "date"
    | .dateTime => "datetime"
    | .time => "time"
    | .bytes => "bytes"
    | .listAgain => "list"
    | .mappingAgain => "dict"
  | .list _ => "list"
  | .map _ => "dict"
  | .pair _ _ => "tuple"
  | .set _ => "set"

/-- Texts in order, each once. -/
def sortedOnce (names : List Text) : List Text := (names.eraseDups).mergeSort Text.precedes

/-- The failure of names that are no sections; names that are no texts cannot be listed. -/
def checkNames (names : List Scalar) : Except Failure Unit :=
  match names.filter fun n => !sections.any fun s => n = .text s with
  | [] => .ok ()
  | unknown =>
    match unknown.mapM fun
      | .text t => some t
      | _ => none with
    | some texts => .error (.error (.unknownSections (sortedOnce texts)))
    | none => .error (.fault .notJoinable)

/-- The fields of a source, whose names are sections. What another value holds is taken for
names. -/
def fieldsOf : Value → Except Failure (List (Scalar × Value))
  | .map fields => do
    checkNames (fields.map Prod.fst)
    return fields
  | v => do
    let items ← v.items.mapError .fault
    let names ← items.mapM fun
      | .scalar s => Except.ok s
      | _ => .error (Failure.fault .notKey)
    checkNames names
    .error (.fault .notMapping)

/-- The items of a section: a list's, or the one that it is. -/
def itemsOf (name : Text) (fields : List (Scalar × Value)) : List Value :=
  match Value.field? name fields with
  | none | some (.scalar .null) => []
  | some (.list items) => items
  | some v => [v]

/-- The mappings of a section, one for each item. -/
def mappingOf (section_ : Text) : Value → Except Failure (List (Scalar × Value))
  | .map fields => .ok fields
  | v => .error (.error (.entryKind section_ (kindName v)))

/-- Whether an item has a field, and no other than it and one more. -/
def isForm (field other : Text) (fields : List (Scalar × Value)) : Bool :=
  (Value.field? field fields).isSome &&
    fields.all fun (k, _) => k = .text field ∨ k = .text other

/-! ## Entries -/

/-- The text of a key in the location of an issue. -/
def keyText : Scalar → Text
  | .bool b => if b then "1" else "0"
  | s => s.literal

/-- What was read, or the issues of what could not be. -/
def gather {α : Type} (read : List (Checked α)) : Checked (List α) :=
  match read.flatMap Checked.issues with
  | [] => .ok (read.filterMap fun
    | .ok a => some a
    | .error _ => none)
  | issues => .error issues

/-- An entry written under a key: an earlier entry of the key keeps its place. -/
def putEntry {α : Type} (key : Text) (a : α) : List (Text × α) → List (Text × α)
  | [] => [(key, a)]
  | (k, b) :: entries => if k = key then (k, a) :: entries else (k, b) :: putEntry key a entries

/-- The entries of a mapping whose keys are texts, or the issues of the other keys. -/
def textKeys {α : Type} (field : Text) (entries : List (Scalar × α)) :
    Checked (List (Text × α)) := do
  let read ← gather (entries.map fun (k, a) =>
    match Config.textOfScalar k with
    | .ok t => .ok (t, a)
    | .error p => .error [⟨[field, keyText k, "[key]"], p⟩])
  return read.foldl (fun entries (k, a) => putEntry k a entries) []

/-- Two checked parts as one, with the issues of both. -/
def both {α β γ : Type} (make : α → β → γ) (a : Checked α) (b : Checked β) : Except Failure γ :=
  match a, b with
  | .ok a, .ok b => .ok (make a b)
  | a, b => .error (.error (.invalid (a.issues ++ b.issues)))

/-- The name of a variable entry. -/
def nameOf (fields : List (Scalar × Value)) : Checked Text := Config.field "name" Config.text [] fields

/-- The values of a variable entry. -/
def valuesOf : Value → Checked (List (Text × Value))
  | .map fields => textKeys "values" fields
  | _ => .error [⟨["values"], .notMapping⟩]

/-- The entry for variables that an item gives: a name and values, or the values alone. -/
def variableEntry (section_ : Text) (item : Value) : Except Failure VariableEntry := do
  let fields ← mappingOf section_ item
  match if isForm "values" "name" fields then Value.field? "values" fields else none with
  | some values => both VariableEntry.mk (nameOf fields) (valuesOf values)
  | none => both VariableEntry.mk (.ok []) (valuesOf (.map fields))

/-- The texts of some selectors, with the issues of those that are none. -/
def selectorTexts (selectors : List Value) : Checked (List Text) :=
  gather (selectors.zipIdx.map fun (v, i) =>
    (Config.text v).mapError fun p => [⟨["selectors", Text.ofNat i], p⟩])

/-- The selectors of an item. -/
def selectorsOf : Value → Checked (Option (List Text))
  | .scalar .null => .ok none
  | .list items => some <$> selectorTexts items
  | .set members => some <$> selectorTexts (members.map Value.scalar)
  | _ => .error [⟨["selectors"], .notList⟩]

/-- The styles of an entry. -/
def stylesOf : Style → Checked (List (Text × Style))
  | .rules entries => textKeys "styles" entries
  | _ => .error [⟨["styles"], .notMapping⟩]

/-- The style tree of a value in a source. -/
def styleOf (v : Value) : Except Failure Style := (Style.ofValue v).mapError .fault

/-- The entry for styles that an item gives: selectors and styles, or the styles alone. -/
def styleEntry (item : Value) : Except Failure StyleEntry := do
  let fields ← mappingOf "styles" item
  match if isForm "styles" "selectors" fields then Value.field? "styles" fields else none with
  | some styles =>
    let style ← styleOf styles
    both StyleEntry.mk (selectorsOf ((Value.field? "selectors" fields).getD .null)) (stylesOf style)
  | none => both StyleEntry.mk (.ok none) (stylesOf (← styleOf item))

/-- The source that a value describes; the first faulty entry counts. -/
def ofValue (v : Value) : Except Failure Source := do
  let fields ← fieldsOf v
  let theme ← (itemsOf "theme" fields).mapM (variableEntry "theme")
  let vars ← (itemsOf "vars" fields).mapM (variableEntry "vars")
  let styles ← (itemsOf "styles" fields).mapM styleEntry
  return ⟨theme, vars, styles⟩

/-! ## Applying a source -/

/-- The calls that a source stands for. -/
def calls (source : Source) : List Call :=
  source.theme.map (fun e => .createTheme e.mapping (.text e.name)) ++
    source.vars.map (fun e => .createVars e.mapping (.text e.name)) ++
    source.styles.map StyleEntry.call

end Source

/-- The session with the entries of a source applied, up to the first that fails. -/
def Session.applySource (source : Source) (s : Session) : Session × Except Fault Unit :=
  s.replay source.calls

end ThemedCss
