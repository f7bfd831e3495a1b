import ThemedCss.Css.Block
import ThemedCss.Style
import ThemedCss.Style.AtRule
import ThemedCss.Style.Selector
import ThemedCss.Theme
import ThemedCss.Value.Property

/-!
# Compiling style trees

A style tree becomes flat rules: nesting is resolved into full selectors, and at-rules are the
only blocks around other blocks. The properties of a level form one block; the blocks of its
nested rules follow it, and a blank line stands between blocks.

* `Style.Options`: the indentation, and how theme keys are read;
* `Placement`: where the rules below a key stand;
* `Style.declarations`: the written properties of a level;
* **`Style.compile`**: the rules of a tree below a parent selector.
-/

namespace ThemedCss

/-- How style trees are compiled. -/
structure Style.Options where
  /-- What declarations and the bodies of at-rules are indented by. -/
  indent : Text := "  "
  /-- How the keys `light` and `dark` are read. -/
  themeKeys : ThemeKeys := .literal

/-- Where the rules below a key stand. -/
inductive Placement
  /-- Directly below a selector. -/
  | under (selector : Text)
  /-- Below a selector, inside an at-rule. -/
  | inside (header selector : Text)
  /-- Inside an at-rule that no selector scopes. -/
  | alone (header : Text)
  deriving DecidableEq

namespace Placement

/-- The place of an at-rule's rules: a parent selector moves inside, except into a statement. -/
def ofHeader (header parent : Text) : Placement :=
  if parent = [] ∨ AtRule.isStatement header then alone header else inside header parent

/-- The place of the rules below a key. -/
def ofKey (themeKeys : ThemeKeys) (key parent : Text) : Placement :=
  match AtRule.header? themeKeys key with
  | some header => ofHeader header parent
  | none => under (Selector.nest key parent)

end Placement

namespace Style

/-- Blocks with a blank line between them. -/
def joinBlocks (blocks : List Text) : Text := List.intercalate "\n\n" blocks

/-- The written properties of a level. -/
def declarations (o : Options) (entries : List (Scalar × Style)) : List Text :=
  entries.filterMap fun
    | (k, property v) => v.css?.map (Block.declaration o.indent (Text.kebab k.display))
    | _ => none

/-- A level below a selector: the block of its properties, if any, and then those of its rules. -/
def level (selector : Text) (properties : List Text) (blocks : List Text) : Text :=
  if properties = [] then joinBlocks blocks
  else joinBlocks (Block.write selector properties :: blocks)

/-- The lines of a text indented, except for the empty ones. -/
def indentLines (indent : Text) (body : Text) : List Text :=
  (Text.lines body).map fun line => if line = [] then [] else indent ++ line

/-- The block of an at-rule around rules; without any there is none. -/
def wrap (o : Options) (header body : Text) : Text :=
  if body = [] then [] else Block.write header (indentLines o.indent body)

/-- An at-rule that no selector scopes: its properties in a block, and its rules in another. -/
def standing (o : Options) (header : Text) (properties blocks : List Text) : Text :=
  joinBlocks ([level header properties [], wrap o header (joinBlocks blocks)].filter (· ≠ []))

/-- The selectors of a marker joined with every part of a parent. -/
def combineParts (selectors : List Value) : List Text → Except Fault (List Text)
  | [] => .ok []
  | parents => do
    let keys ← selectors.mapM fun
      | .scalar (.text t) => Except.ok t
      | _ => .error Fault.notText
    return parents.flatMap fun part => keys.map (Selector.join · part)

/-- The selectors of a marker joined with the parts of the parent selector. -/
def combine (selectors : List Value) (parent : Text) : Except Fault (List Text) :=
  combineParts selectors (if parent = [] then [[]] else Selector.split parent)

mutual

/-- The rules of a tree below a parent selector. -/
def compile (o : Options) (parent : Text) : Style → Except Fault Text
  | rules entries => level parent (declarations o entries) <$> blocks o parent entries
  | property _ => .error .notMapping
  | nested _ _ => .error .notMapping

/-- The blocks that the entries of a level give rise to, in order. -/
def blocks (o : Options) (parent : Text) : List (Scalar × Style) → Except Fault (List Text)
  | [] => .ok []
  | (k, style) :: entries => do
    let css ← block o k.display parent style
    let others ← blocks o parent entries
    return if css = [] then others else css :: others

/-- The text of the blocks for what stands under one key; a property has none. -/
def block (o : Options) (key parent : Text) : Style → Except Fault Text
  | property _ => .ok []
  | nested selectors styles => do
    let combined ← combine selectors parent
    if combined = [] ∨ !styles.isTrue then .ok []
    else compile o (List.intercalate ", " combined) styles
  | rules entries =>
    match Placement.ofKey o.themeKeys key parent with
    | .under selector =>
      level selector (declarations o entries) <$> blocks o selector entries
    | .inside header selector => do
      let inner ← blocks o selector entries
      return wrap o header (level selector (declarations o entries) inner)
    | .alone header =>
      standing o header (declarations o entries) <$> blocks o [] entries

end

end Style

end ThemedCss
