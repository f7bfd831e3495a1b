import ThemedCss.Value

/-!
# Property values

How a value is written behind a property name.

* **`Value.css?`**: null is left out, a double without fraction is written as an integer, and a
  list as its items between commas;
* `Value.css?_eq_none`: null alone has no text.
-/

namespace ThemedCss

/-- The text of a scalar as a property value, if it has one. -/
def Scalar.css? : Scalar → Option Text
  | .null => none
  | .bool b => some (if b then "true" else "false")
  | .float x => some <| match x.integer? with
    | some n => Text.ofInt n
    | none => x.write .plain
  | s => some s.display

namespace Value

mutual

/-- The text of a value as a property value; a mapping has the text it shows in a list, and a pair
that of a list of two. -/
def css? : Value → Option Text
  | scalar s => s.css?
  | list items => some (List.intercalate ", " (cssItems items))
  | map fields => some (map fields).literal
  | pair first second => some (List.intercalate ", " (first.css?.toList ++ second.css?.toList))
  | set members => some (setLiteral members)

/-- The texts of the items that have one. -/
def cssItems : List Value → List Text
  | [] => []
  | v :: items => v.css?.toList ++ cssItems items

end

theorem css?_eq_none (v : Value) : v.css? = none ↔ v = null := by
  cases v with
  | scalar s => cases s <;> simp [css?, Scalar.css?, null]
  | list items => simp [css?, null]
  | map fields => simp [css?, null]
  | pair first second => simp [css?, null]
  | set members => simp [css?, null]

end Value

end ThemedCss
