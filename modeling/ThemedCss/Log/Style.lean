import ThemedCss.Log
import ThemedCss.Style.Compile

/-!
# The log of compiling

What a style tree holds that leads to no text.

* `Log.skippedProperty`, `Log.markerWithoutStyles`, `Log.withoutText`: the lines;
* **`Log.style`**: the lines for a tree, in the order of its compilation.
-/

namespace ThemedCss.Log

open Style (Options)

/-- A line about compiling. -/
def aboutStyles (text : Text) : Line := { place := "stylecraft.core.compiler", text := text }

/-- A property without a value. -/
def skippedProperty (key : Text) : Line :=
  aboutStyles ("Skipping " ++ key.quoted ++ ": no value")

/-- The selectors of a marker in parentheses; a comma follows one that is alone. -/
def selectorTuple (selectors : List Value) : Text :=
  let items := List.intercalate ", " (selectors.map Value.literal)
  "(" ++ items ++ (if selectors.length = 1 then "," else "" : Text) ++ ")"

/-- A marker that stands for no rules. -/
def markerWithoutStyles (selectors : List Value) : Line :=
  aboutStyles ("Nested selectors " ++ selectorTuple selectors ++ " have no styles")

/-- A key that leads to no text. -/
def withoutText (key parent : Text) : Line :=
  aboutStyles ("No CSS emitted for " ++ key.quoted ++ " under " ++ parent.quoted)

/-- Whether a block is empty. -/
def isEmptyBlock (css : Except Fault Text) : Bool :=
  match css with
  | .ok css => css.isEmpty
  | .error _ => false

mutual

/-- The lines for a tree below a parent selector. -/
def style (o : Options) (parent : Text) : Style → List Line
  | .rules entries => level o parent (fun _ => true) entries
  | _ => []

/-- The lines for those entries of a level that pass a test. -/
def level (o : Options) (parent : Text) (keep : Style → Bool) :
    List (Scalar × Style) → List Line
  | [] => []
  | (k, s) :: entries =>
    (if keep s then entry o k.display parent s else []) ++ level o parent keep entries

/-- The lines for what stands under a key: at the top of an at-rule, its properties come first. -/
def entry (o : Options) (key parent : Text) : Style → List Line
  | .property v => if v.css?.isNone then [skippedProperty key] else []
  | .nested selectors styles =>
    let inner := match Style.combine selectors parent with
      | .ok combined =>
        if combined = [] ∨ !styles.isTrue then [markerWithoutStyles selectors]
        else style o (List.intercalate ", " combined) styles
      | .error _ => []
    if isEmptyBlock (Style.block o key parent (.nested selectors styles)) then
      inner ++ [withoutText key parent]
    else inner
  | .rules entries =>
    let inner := match Placement.ofKey o.themeKeys key parent with
      | .under selector | .inside _ selector => level o selector (fun _ => true) entries
      | .alone _ => level o [] Style.isProperty entries ++ level o [] (!·.isProperty) entries
    if isEmptyBlock (Style.block o key parent (.rules entries)) then
      inner ++ [withoutText key parent]
    else inner

end

end ThemedCss.Log
