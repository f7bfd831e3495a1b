import ThemedCss.Style.Compile
import ThemedCss.Value.Items

/-!
# Parents of any kind

Selectors and rules below a parent that is any value. Where the parent is only shown, every value
will do; to be split it must be a sequence of texts, and to have a key spliced onto it a text.

* `Selector.splitValue`: the parts of a selector list that a value holds;
* `Selector.createBelow`, `Selector.nestBelow`: the selector of a key below a parent;
* **`Style.compileBelow`**: the rules of a tree below a parent.
-/

namespace ThemedCss

namespace Selector

/-! ## Selectors -/

/-- The bracket depth after some code points that count as one: those between the brackets of one
kind, be they none. -/
def depthAfterPart (depth : Nat) (part : Text) : Nat :=
  if Text.contains part "([" then depth + 1
  else if Text.contains part ")]" then depth - 1
  else depth

/-- The texts between the commas outside brackets, when some code points count as one. -/
def partPieces (depth : Nat) : List Text → List Text
  | [] => [[]]
  | part :: rest =>
    if part = [','] ∧ depth = 0 then [] :: partPieces depth rest
    else part.foldr Text.consHead (partPieces (depthAfterPart depth part) rest)

/-- The parts of a selector list that a value holds. -/
def splitValue : Value → Except Fault (List Text)
  | .scalar (.text t) => .ok (split t)
  | v => do return ((partPieces 0 (← v.texts)).map Text.strip).filter (· ≠ [])

/-- The selector of a key below one parent. -/
def createBelow (key : Text) (parent : Value) : Except Fault Text :=
  match parent with
  | .scalar (.text parent) => .ok (create key parent)
  | parent =>
    if key.head? = some '@' then .ok key
    else if key.head? = some '&' then .error .notJoinable
    else if isList key then .ok key
    else if key.head?.any attaches then .ok (parent.display ++ key)
    else if parent.isTrue then .ok (parent.display ++ ' ' :: key)
    else .ok key

/-- The selector of a key below a parent, which is split when it holds a list. -/
def nestBelow (key : Text) (parent : Value) : Except Fault Text := do
  let parts ← if parent.isTrue then splitValue parent else .ok []
  if 1 < parts.length then return List.intercalate ", " (parts.map (create key))
  else createBelow key parent

end Selector

namespace Style

/-! ## Rules -/

/-- A parent as the header of a block; one that is not true is none. -/
def headerOf (parent : Value) : Text := if parent.isTrue then parent.display else []

/-- The selectors of a marker joined with every part of a parent. -/
def combineBelow (selectors : List Value) (parent : Value) : Except Fault (List Text) := do
  combineParts selectors (← if parent.isTrue then Selector.splitValue parent else .ok [[]])

mutual

/-- The rules of a tree below a parent. -/
def compileBelow (o : Options) (parent : Value) : Style → Except Fault Text
  | rules entries => level (headerOf parent) (declarations o entries) <$> blocksBelow o parent entries
  | property _ => .error .notMapping
  | nested _ _ => .error .notMapping

/-- The blocks that the entries of a level give rise to, in order. -/
def blocksBelow (o : Options) (parent : Value) :
    List (Scalar × Style) → Except Fault (List Text)
  | [] => .ok []
  | (k, style) :: entries => do
    let css ← blockBelow o k.display parent style
    let others ← blocksBelow o parent entries
    return if css = [] then others else css :: others

/-- The text of the blocks for what stands under one key; a parent stays one of its kind inside
at-rules, and is part of a text below every other key. -/
def blockBelow (o : Options) (key : Text) (parent : Value) : Style → Except Fault Text
  | property _ => .ok []
  | nested selectors styles => do
    let combined ← combineBelow selectors parent
    if combined = [] ∨ !styles.isTrue then .ok []
    else compile o (List.intercalate ", " combined) styles
  | rules entries =>
    match AtRule.header? o.themeKeys key with
    | some header =>
      if parent.isTrue ∧ ¬ AtRule.isStatement header then do
        let inner ← blocksBelow o parent entries
        return wrap o header (level parent.display (declarations o entries) inner)
      else standing o header (declarations o entries) <$> blocks o [] entries
    | none => do
      let selector ← Selector.nestBelow key parent
      level selector (declarations o entries) <$> blocks o selector entries

end

end Style

end ThemedCss
