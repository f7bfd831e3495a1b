import ThemedCss.Cache
import ThemedCss.Config
import ThemedCss.Sheet.Merge
import ThemedCss.Style.Compile
import ThemedCss.Value.Items
import ThemedCss.Variable.Collect

/-!
# Sessions

A session holds everything that one style sheet is made from: the theme variables, the use of
fallbacks, the compiled rules and the cache.

* `Session`: the state between calls;
* `Session.createTheme`, `Session.createVars`, `Session.createStyle`: what goes in;
* `Session.optimize`: hoisting and shortening;
* **`Session.css`**, `Session.cssUnder`: the whole style sheet;
* `Session.reset`: all but the cache is cleared.
-/

namespace ThemedCss

/-- The state of a session. -/
structure Session where
  config : Config := {}
  registry : Registry := {}
  /-- The compiled rules of each call, as they are after the last shortening. -/
  chunks : List Text := []
  /-- The number of chunks whose references are counted. -/
  scanned : Nat := 0
  cache : Cache Scalar := {}
  deriving DecidableEq

/-- What a call for styles is about. -/
inductive Subject
  /-- A style tree. -/
  | style (s : Style)
  /-- A value that names selectors; a mapping is a style tree without markers. -/
  | selectors (v : Value)

namespace Session

/-- A session without any content. -/
def start (config : Config) : Session :=
  { config := config, cache := { bound := config.cacheMaxEntries } }

/-- The options that style trees are compiled with. -/
def styleOptions (s : Session) : Style.Options := ⟨s.config.indent, s.config.styleThemeKeys⟩

/-- The options that a style sheet is assembled with. -/
def sheetOptions (s : Session) (includeStyles : Bool) : Sheet.Options :=
  ⟨includeStyles, s.config.darkMediaQuery, s.config.indent⟩

/-! ## Variables -/

/-- The session with the variables of a tree collected, and the references of the tree. -/
def collectWith (o : CollectOptions) (values name : Value) (s : Session) :
    Except Fault (Session × ReferenceTree) := do
  let c ← collect o name values s.registry
  return ({ s with registry := c.registry }, .level c.references)

/-- The variables of a theme: a leaf without a mode goes to the root. -/
def createTheme (values name : Value) (s : Session) : Except Fault (Session × ReferenceTree) :=
  s.collectWith ⟨true, .scope⟩ values name

/-- The variables of a component: a leaf without a mode stays a fallback. -/
def createVars (values name : Value) (s : Session) : Except Fault (Session × ReferenceTree) :=
  s.collectWith ⟨false, s.config.varsThemeKeys⟩ values name

/-! ## Styles -/

/-- The selectors of a value as one selector list. -/
def joinSelectors : Value → Except Fault Text
  | .scalar (.text t) => .ok t
  | .list items => do
    let texts ← items.mapM fun
      | .scalar (.text t) => Except.ok t
      | _ => .error Fault.notJoinable
    return List.intercalate "," texts
  | _ => .error .notSequence

/-- The style tree that a call compiles; selectors without styles compile to nothing. -/
def effectiveStyle : Subject → Option Style → Except Fault (Option Style)
  | .style (.rules entries), _ => .ok (some (.rules entries))
  | .selectors (.map fields), _ => .ok (some (Style.plain (.map fields)))
  | _, none => .ok none
  | .style (.property v), some styles | .selectors v, some styles => do
    return some (.rules [(.text (← joinSelectors v), styles)])
  | .style (.nested _ _), some _ => .error .notSequence

/-- The session with the rules of a style tree, and the tree. -/
def createStyle (subject : Subject) (styles : Option Style) (s : Session) :
    Except Fault (Session × Style) := do
  match ← effectiveStyle subject styles with
  | none => return (s, .rules [])
  | some style =>
    let css ← style.compile s.styleOptions []
    return (if css = [] then s else { s with chunks := s.chunks ++ [css] }, style)

/-- The compiled rules. -/
def generateStyles (s : Session) : Text := Style.joinBlocks s.chunks

/-! ## Output -/

/-- The session with the references of new chunks counted. -/
def scanChunks (s : Session) : Session :=
  { s with
    registry := (s.chunks.drop s.scanned).foldl Registry.scan s.registry
    scanned := s.chunks.length }

/-- The session with fallbacks hoisted and chunks shortened, and the names added to the root. -/
def optimize (s : Session) : Session × List Text :=
  let s := s.scanChunks
  let (registry, names) := s.registry.hoist s.config.hoistThreshold
  ({ s with registry := registry, chunks := s.chunks.map (shorten registry.store.root) }, names)

/-- The style sheet of a session as it stands. -/
def sheet (s : Session) (includeStyles : Bool) : Text :=
  let css := Sheet.assemble (s.sheetOptions includeStyles) s.registry.store s.chunks
  if s.config.dedupe then Sheet.merge css else Sheet.collapse css

/-- The session after a style sheet has been generated, and the style sheet. -/
def generate (includeStyles : Bool) (s : Session) : Session × Text :=
  let s := s.optimize.1
  (s, s.sheet includeStyles)

/-- The style sheet of a session, which is kept under a key if there is one, and taken from the
cache when it is there and has the rules that are asked for. -/
def css (includeStyles : Bool) (key : Option Scalar) (s : Session) : Session × Text :=
  match key with
  | none => s.generate includeStyles
  | some k =>
    if s.cache.shouldRegenerate k includeStyles then
      let (s, text) := s.generate includeStyles
      let metadata := if includeStyles then [] else Cache.needsStyles
      ({ s with cache := s.cache.set k text metadata }, text)
    else (s, (s.cache.get? k).getD [])

/-- The key that the cache of a session names while it makes a style sheet: the one that is asked
for when it is taken from there, and the one that goes when it is kept. -/
def namedKey? (includeStyles : Bool) (key : Scalar) (s : Session) : Option Scalar :=
  if s.cache.shouldRegenerate key includeStyles then s.cache.dropped? key else some key

/-- The style sheet of a session under a key of any kind. A key that is no text cannot be named. -/
def cssUnder (includeStyles : Bool) (key : Value) (s : Session) : Session × Except Fault Text :=
  match key with
  | .scalar .null =>
    let (s, css) := s.css includeStyles none
    (s, .ok css)
  | _ => match key.key with
    | .error f => (s, .error f)
    | .ok k =>
      let (s', css) := s.css includeStyles (some k)
      (s', if (s.namedKey? includeStyles k).all Scalar.isText then .ok css else .error .notSequence)

/-! ## Life cycle -/

/-- The session without variables, counts and rules; the cache is kept. -/
def reset (s : Session) : Session := { s with registry := {}, chunks := [], scanned := 0 }

/-- The session with an empty cache. -/
def clearCache (s : Session) : Session := { s with cache := s.cache.clear }

end Session

end ThemedCss
