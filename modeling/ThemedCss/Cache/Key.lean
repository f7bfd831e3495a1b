import ThemedCss.Document.JsonText
import ThemedCss.Number.Decimal
import ThemedCss.Style
import ThemedCss.Value.Items

/-!
# Cache keys

The key of a style sheet is made from the data that describe it: two descriptions with one key are
the same ordered tree.

* `Material`: what a key may be made from;
* `Material.ofMembers`: a set from its members;
* **`Material.key`**: the compact text of the data, with the order of entries kept.
-/

namespace ThemedCss

/-- What a cache key may be made from. -/
inductive Material
  | scalar (s : Scalar)
  | list (items : List Material)
  | map (entries : List (Text × Material))
  /-- The selectors and the styles of a marker. -/
  | marker (selectors : List Material) (styles : Material)
  /-- Members without an order of their own. -/
  | set (members : List Scalar)
  /-- A named constant, which counts as its value. -/
  | constant (value : Material)
  | decimal (d : Decimal)

namespace Material

/-- The set of the items of a value, each taken once. Lists and mappings are in no set. -/
def ofMembers (v : Value) : Except Fault Material := do
  let members ← (← v.items).mapM fun
    | .scalar s => Except.ok s
    | _ => .error Fault.notKey
  return set (members.foldl (fun ms m => if ms.any (m.sameKey ·) then ms else ms ++ [m]) [])

/-! ## Keys -/

/-- The text of a scalar in a key. -/
def scalarKey : Scalar → Text
  | .null => "null"
  | .bool b => if b then "true" else "false"
  | .int n => Text.ofInt n
  | .float x => x.write .json
  | .text t => Json.quote .unicode t
  | .special s => Json.quote .unicode s.text

/-- Texts between commas. -/
def commas (texts : List Text) : Text := List.intercalate "," texts

/-- An entry of a mapping. -/
def entryKey (name value : Text) : Text := Json.quote .unicode name ++ ":" ++ value

mutual

/-- The key that data make. -/
def key : Material → Text
  | scalar s => scalarKey s
  | list items => "[" ++ commas (keys items) ++ "]"
  | map entries => "\x7b" ++ commas (entryKeys entries) ++ "\x7d"
  | marker selectors styles =>
    "\x7b" ++ commas
      [entryKey Style.selectorsKey ("[" ++ commas (keys selectors) ++ "]"),
        entryKey Style.stylesKey styles.key] ++ "\x7d"
  | set members =>
    let ranked := members.mergeSort fun a b => Text.precedes a.display b.display
    "[" ++ commas (ranked.map scalarKey) ++ "]"
  | constant value => value.key
  | decimal d => Json.quote .unicode d.write

/-- The texts of the items of a list. -/
def keys : List Material → List Text
  | [] => []
  | m :: items => m.key :: keys items

/-- The texts of the entries of a mapping. -/
def entryKeys : List (Text × Material) → List Text
  | [] => []
  | (name, m) :: entries => entryKey name m.key :: entryKeys entries

end

end Material

end ThemedCss
