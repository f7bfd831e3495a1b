import ThemedCss.Style.Compile
import ThemedCss.Value.Format

/-!
# Compiling value by value

The compilation of a style tree makes the texts of its property values as it comes to them. It fails at
the first one of which no text can be made, or at a marker whose selectors cannot be joined.

* `Style.checkProperties`: the properties of a level alone;
* **`Style.check`**: what a compilation comes to, in order;
* `Style.compileChecked`: the rules of a tree that passes.
-/

namespace ThemedCss.Style

/-- The texts of the properties of a level are made, in order. -/
def checkProperties : List (Scalar × Style) → Except Fault Unit
  | [] => .ok ()
  | (_, property v) :: entries => do
    let _ ← v.format
    checkProperties entries
  | _ :: entries => checkProperties entries

mutual

/-- The texts of a tree below a parent selector are made, in the order in which it is compiled. -/
def check (o : Options) (parent : Text) : Style → Except Fault Unit
  | rules entries => checkEntries o parent entries
  | property _ => .error .notMapping
  | nested _ _ => .error .notMapping

/-- The texts of what stands under some keys are made, one entry after the other. -/
def checkEntries (o : Options) (parent : Text) : List (Scalar × Style) → Except Fault Unit
  | [] => .ok ()
  | (k, style) :: entries => do
    checkEntry o k.display parent style
    checkEntries o parent entries

/-- The texts of what stands under one key are made. In an at-rule that no selector scopes, the
properties come before the rules. -/
def checkEntry (o : Options) (key parent : Text) : Style → Except Fault Unit
  | property v => do
    let _ ← v.format
    return ()
  | nested selectors styles => do
    let combined ← combine selectors parent
    if combined = [] ∨ !styles.isTrue then .ok ()
    else check o (List.intercalate ", " combined) styles
  | rules entries =>
    match Placement.ofKey o.themeKeys key parent with
    | .under selector => checkEntries o selector entries
    | .inside _ selector => checkEntries o selector entries
    | .alone _ => do
      checkProperties entries
      checkEntries o [] entries

end

/-- The rules of a tree below a parent selector, if all of its texts can be made. -/
def compileChecked (o : Options) (parent : Text) (style : Style) : Except Fault Text := do
  style.check o parent
  style.compile o parent

end ThemedCss.Style
