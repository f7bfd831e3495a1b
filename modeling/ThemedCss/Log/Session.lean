import ThemedCss.Config.File
import ThemedCss.Log.Style
import ThemedCss.Log.Variables
import ThemedCss.Source

/-!
# The log of a command

* `Log.searching`, `Log.settings`: where settings were looked for, and which were loaded;
* `Log.emptySource`, `Log.applying`: what a source holds;
* `Log.merging`: the rules that were merged;
* **`Log.generating`**: the lines for a style sheet.
-/

namespace ThemedCss.Log

/-! ## Settings -/

/-- A line about settings. -/
def aboutSettings (text : Text) : Line := { place := "stylecraft.config", text := text }

/-- The projects that cannot be read in some directories, up to the one with settings. -/
def searchingIn (tree : FileTree) : List Path → List Line
  | [] => []
  | d :: directories =>
    match Config.foundIn tree d with
    | .ok none =>
      let project := d.child Config.projectName
      let isBad := (tree.read? project).any fun text => !(Toml.parse text).isOk
      (if isBad then [aboutSettings ("Skipping unreadable " ++ project.text)] else []) ++
        searchingIn tree directories
    | _ => []

/-- The projects at and above a path that cannot be read. -/
def searching (tree : FileTree) (start : Path) : List Line :=
  searchingIn tree ((Config.searched tree start).toOption.getD [])

/-- The file that settings were loaded from. -/
def settings (tree : FileTree) (path : Option Path) : List Line :=
  match path.filter fun p => (tree.has p).toOption.getD false with
  | none => [aboutSettings "No configuration file, using defaults"]
  | some p => [aboutSettings ("Loaded configuration from " ++ p.text)]

/-! ## Sources -/

/-- The warning for a source file that holds nothing. -/
def emptySource (path : Path) : Line :=
  { level := .warning, place := "stylecraft.loader", text := "Empty stylesheet source " ++ path.text }

/-- The lines for a call of a session. -/
def call (s : Session) : Call → List Line
  | .createTheme values name => collecting ⟨true, .scope⟩ name values s.registry
  | .createVars values name => collecting ⟨false, s.config.varsThemeKeys⟩ name values s.registry
  | .createStyle subject styles =>
    match Session.effectiveStyle subject styles with
    | .ok (some tree) => style s.styleOptions [] tree
    | _ => []
  | _ => []

/-- The lines for calls of a session in turn. -/
def calls (s : Session) : List Call → List Line
  | [] => []
  | c :: cs => call s c ++ calls (s.step c).1 cs

/-- The lines for a source that is applied to a session. -/
def applying (s : Session) (source : Source) : List Line :=
  calls s source.calls ++
    [{ place := "stylecraft.loader", text :=
        "Applied " ++ Text.ofNat source.theme.length ++ " theme, " ++
          Text.ofNat source.vars.length ++ " vars and " ++ Text.ofNat source.styles.length ++
          " style entries" }]

/-! ## Style sheets -/

/-- The line for the rules with a body, if they are merged. -/
def mergingBody (ps : List Sheet.Piece) (body : List Text) : Option Line :=
  if Sheet.isShared body ps then
    let count := (ps.filter fun p => p.body? = some body).length
    let merged : Text := List.intercalate ", " (Sheet.sharing body ps)
    some { place := "stylecraft.core.dedupe",
           text := "Merged " ++ Text.ofNat count ++ " rules into " ++ merged.quoted }
  else none

/-- The lines for the rules of a style sheet that are merged. -/
def merging (css : Text) : List Line :=
  let ps := Sheet.pieces (Text.lines css)
  (ps.filterMap Sheet.Piece.body?).eraseDups.filterMap (mergingBody ps)

/-- The line for a style sheet as a whole. -/
def summary (s : Session) : Line :=
  let store := s.registry.store
  { level := .info, place := "stylecraft.session", text :=
      "Generated CSS: " ++ Text.ofNat store.root.size ++ " root, " ++
        Text.ofNat store.light.size ++ " light, " ++ Text.ofNat store.dark.size ++
        " dark variables, " ++ Text.ofNat s.chunks.length ++ " style chunks" }

/-- The lines for the style sheet of a session. -/
def generating (s : Session) (includeStyles : Bool) : List Line :=
  let optimized := s.optimize.1
  let css := Sheet.assemble (optimized.sheetOptions includeStyles) optimized.registry.store
    optimized.chunks
  hoisting s.config.hoistThreshold s.scanChunks.registry ++
    (if s.config.dedupe then merging css else []) ++ [summary optimized]

end ThemedCss.Log
