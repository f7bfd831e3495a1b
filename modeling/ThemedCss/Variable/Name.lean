import ThemedCss.Text.Kebab

/-!
# Names of custom properties

* `Variable.segment`: a key as a part of a name;
* `Variable.reference`: a path of parts as a name without its two leading hyphens;
* **`Variable.name`**: the name of a path.
-/

namespace ThemedCss.Variable

/-- A key in kebab case, without leading hyphens. -/
def segment (key : Text) : Text := (Text.kebab key).dropWhile (· = '-')

/-- A path of parts joined by hyphens. -/
def reference (path : List Text) : Text := List.intercalate "-" path

/-- The custom property with a given reference name. -/
def ofReference (reference : Text) : Text := "--" ++ reference

/-- The name of the custom property at a path. -/
def name (path : List Text) : Text := ofReference (reference path)

theorem segment_head_ne (key : Text) : (segment key).head? ≠ some '-' := by
  intro h
  have := List.head?_dropWhile_not (· = '-') (Text.kebab key)
  simp_all [segment]

end ThemedCss.Variable
