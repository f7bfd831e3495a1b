import ThemedCss.Value.Items

/-!
# Style trees

A style tree describes rules: a key is a selector fragment, an at-rule or a property name. Beside
mappings and property values a tree may hold markers, which combine selectors of their own with
the parent selector whatever key they stand under.

* `Style`: property values, mappings and markers;
* `Style.ofValue`: a tree from data, where a mapping with the key `$nested` is a marker;
* `Style.plain`: a tree from data, where no mapping is a marker.
-/

namespace ThemedCss

/-- A tree of styles. -/
inductive Style
  /-- The value of a property. -/
  | property (v : Value)
  /-- A level of properties and rules. -/
  | rules (entries : List (Scalar × Style))
  /-- A marker: the styles of selectors that join the parent selector. -/
  | nested (selectors : List Value) (styles : Style)

namespace Style

/-- The key of a marker's selectors. -/
def selectorsKey : Text := "$nested"

/-- The key of a marker's styles. -/
def stylesKey : Text := "$styles"

/-- Whether a tree is the value of a property. -/
def isProperty : Style → Bool
  | property _ => true
  | _ => false

/-- Neither null, false, zero nor empty; a marker never is. -/
def isTrue : Style → Bool
  | property v => v.isTrue
  | rules entries => !entries.isEmpty
  | nested _ _ => true

/-- The selectors that a marker may be given: one text, or what a sequence of any kind holds. -/
def selectorsOf : Value → Except Fault (List Value)
  | .scalar (.text t) => .ok [.text t]
  | v => v.items

mutual

/-- The style tree that a value describes. Lists are property values with all they hold, and a
mapping inside itself describes none. -/
def ofValue : Value → Except Fault Style
  | .scalar s => if s.isMappingAgain then .error .endless else .ok (property s)
  | .list items => .ok (property (.list items))
  | .pair first second => .ok (property (.pair first second))
  | .set members => .ok (property (.set members))
  | .map fields =>
    match Value.field? selectorsKey fields with
    | some selectors => do
      let styles ← markerStyles fields
      return nested (← selectorsOf selectors) styles
    | none => rules <$> entriesOfFields fields

/-- The styles of a marker, from its mapping. -/
def markerStyles : List (Scalar × Value) → Except Fault Style
  | [] => .ok (rules [])
  | (k, v) :: fields => if k = .text stylesKey then ofValue v else markerStyles fields

/-- The entries of a level, from a mapping. -/
def entriesOfFields : List (Scalar × Value) → Except Fault (List (Scalar × Style))
  | [] => .ok []
  | (k, v) :: fields => do
    let style ← ofValue v
    return (k, style) :: (← entriesOfFields fields)

end

mutual

/-- The style tree of a value in which no mapping is read as a marker. -/
def plain : Value → Style
  | .scalar s => property s
  | .list items => property (.list items)
  | .pair first second => property (.pair first second)
  | .set members => property (.set members)
  | .map fields => rules (plainEntries fields)

/-- The entries of a level, from a mapping in which none is read as a marker. -/
def plainEntries : List (Scalar × Value) → List (Scalar × Style)
  | [] => []
  | (k, v) :: fields => (k, plain v) :: plainEntries fields

end

end Style

end ThemedCss
