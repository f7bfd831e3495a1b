import ThemedCss.Log
import ThemedCss.Variable.Collect

/-!
# The log of variables

* **`Log.collecting`**: the lines for a tree of variables: its leaves without text, and how many
  names its references have;
* **`Log.hoisting`**: the lines for hoisting: the names that were added to the root, and those
  that were taken.
-/

namespace ThemedCss.Log

open Variable Collection

/-! ## Collecting -/

/-- A line about collecting. -/
def aboutVariables (text : Text) : Line := { place := "stylecraft.core.variables", text := text }

/-- A leaf, if it has no text. -/
def leaf (path : List Text) (v : Value) : List Line :=
  if v.css?.isNone then [aboutVariables ("Skipping " ++ name path ++ ": no value")] else []

mutual

/-- The leaves without text of a mapping. -/
def fields (o : CollectOptions) (path : List Text) : List (Scalar × Value) → List Line
  | [] => []
  | (k, v) :: entries => field o path k.display v ++ fields o path entries

/-- The leaves without text of what stands under one key. -/
def field (o : CollectOptions) (path : List Text) (key : Text) : Value → List Line
  | .map entries =>
    if (o.scopeOf? key).isSome then fields o path entries
    else
      match if o.themeKeys = .scope then modeLeaves? entries else none with
      | some leaves => (lightFirst leaves).flatMap fun (_, v) => leaf (path ++ [segment key]) v
      | none => fields o (path ++ [segment key]) entries
  | v => leaf (path ++ [segment key]) v

end

/-- The lines for a tree of variables that is collected below a name. -/
def collecting (o : CollectOptions) (name values : Value) (r : Registry) : List Line :=
  match startOf o name, values, collect o name values r with
  | .ok (_, path), .map entries, .ok c =>
    fields o path entries ++
      [aboutVariables ("Collected " ++ Text.ofNat c.references.length ++ " variables (prefix=" ++
        name.literal ++ ", full_theme=" ++ (Scalar.bool o.fullTheme).display ++ ")")]
  | _, _, _ => []

/-! ## Hoisting -/

/-- A line about hoisting. -/
def aboutHoisting (level : Level) (text : Text) : Line :=
  { level := level, place := "stylecraft.core.optimizer", text := text }

/-- The lines for a literal, from its references on: up to the one that is promoted or that has
the literal already, those that are used often enough but taken. -/
def references (threshold : Nat) (root : Bindings) (literal : Text) : List (Text × Nat) → List Line
  | [] => []
  | (reference, count) :: uses =>
    if count < threshold then references threshold root literal uses
    else
      let variable_ := ofReference reference
      match root.get? variable_ with
      | none =>
        [aboutHoisting .debug ("Hoisted " ++ variable_ ++ ": " ++ literal ++ " (" ++
          Text.ofNat count ++ " uses)")]
      | some current =>
        if current = literal then []
        else aboutHoisting .debug ("Not hoisting " ++ variable_ ++ ": root already holds " ++
          current) :: references threshold root literal uses

/-- The lines for some literals that are promoted in turn. -/
def literals (threshold : Nat) (r : Registry) : List (Text × Usage) → List Line
  | [] => []
  | (literal, u) :: entries =>
    (if u.promoted then [] else references threshold r.store.root u.value u.uses.entries) ++
      literals threshold (r.promote threshold literal u).1 entries

/-- The lines for hoisting. -/
def hoisting (threshold : Nat) (r : Registry) : List Line :=
  literals threshold r r.table.entries ++
    match (r.hoist threshold).2 with
    | [] => []
    | names => [aboutHoisting .info
        ("Hoisted " ++ Text.ofNat names.length ++ " default value(s) into :root")]

end ThemedCss.Log
