import ThemedCss.Source

/-!
# The extent of sources

What a source holds may be too much to be worked on: collections inside themselves, too many of
them inside each other, and integers with too many digits.

* `Value.any`, `Style.any`: whether some scalar passes a test;
* `Value.depth`, `Style.depth`: how many collections stand inside each other;
* `Source.depth`: the same of a whole source;
* **`Source.fault?`**: why a source cannot be worked on.
-/

namespace ThemedCss

/-! ## Values -/

mutual

/-- Whether some scalar in a value passes a test, be it a key. -/
def Value.any (p : Scalar → Bool) : Value → Bool
  | .scalar s => p s
  | .list items => Value.anyItem p items
  | .map fields => Value.anyField p fields
  | .pair first second => first.any p || second.any p
  | .set members => members.any p

/-- Whether some scalar in some values passes a test. -/
def Value.anyItem (p : Scalar → Bool) : List Value → Bool
  | [] => false
  | v :: items => v.any p || Value.anyItem p items

/-- Whether some scalar in the entries of a mapping passes a test. -/
def Value.anyField (p : Scalar → Bool) : List (Scalar × Value) → Bool
  | [] => false
  | (k, v) :: fields => p k || v.any p || Value.anyField p fields

end

mutual

/-- The number of collections that stand inside each other. -/
def Value.depth : Value → Nat
  | .scalar _ => 0
  | .list items => Value.depthOfItems items + 1
  | .map fields => Value.depthOfFields fields + 1
  | .pair first second => max first.depth second.depth + 1
  | .set _ => 0

/-- The largest depth of some values. -/
def Value.depthOfItems : List Value → Nat
  | [] => 0
  | v :: items => max v.depth (Value.depthOfItems items)

/-- The largest depth of the values in a mapping. -/
def Value.depthOfFields : List (Scalar × Value) → Nat
  | [] => 0
  | (_, v) :: fields => max v.depth (Value.depthOfFields fields)

end

/-- The largest depth of a list in a value, where mappings alone stand around it. -/
def Value.depthOfLeaves : Value → Nat
  | .map fields => leaves fields
  | v => v.depth
where
  /-- The same of the values in a mapping. -/
  leaves : List (Scalar × Value) → Nat
    | [] => 0
    | (_, v) :: fields => max v.depthOfLeaves (leaves fields)

/-! ## Styles -/

mutual

/-- Whether some scalar in a style tree passes a test. -/
def Style.any (p : Scalar → Bool) : Style → Bool
  | property v => v.any p
  | rules entries => Style.anyEntry p entries
  | nested selectors styles => Value.anyItem p selectors || styles.any p

/-- Whether some scalar in the entries of a level passes a test. -/
def Style.anyEntry (p : Scalar → Bool) : List (Scalar × Style) → Bool
  | [] => false
  | (k, s) :: entries => p k || s.any p || Style.anyEntry p entries

end

mutual

/-- The number of levels and collections that stand inside each other in a style tree. -/
def Style.depth : Style → Nat
  | property v => v.depth
  | rules entries => Style.depthOfEntries entries + 1
  | nested selectors styles => max (Value.depthOfItems selectors) styles.depth + 1

/-- The largest depth of the trees of some entries. -/
def Style.depthOfEntries : List (Scalar × Style) → Nat
  | [] => 0
  | (_, s) :: entries => max s.depth (Style.depthOfEntries entries)

end

/-! ## Sources -/

namespace Source

/-- The variables of a source as values. -/
def mappings (source : Source) : List Value :=
  (source.theme ++ source.vars).map VariableEntry.mapping

/-- Whether some scalar in a source passes a test. -/
def any (p : Scalar → Bool) (source : Source) : Bool :=
  Value.anyItem p source.mappings || source.styles.any fun e => e.tree.any p

/-- The number of collections that stand inside each other in a source. -/
def depth (source : Source) : Nat :=
  max (Value.depthOfItems source.mappings) (Style.depthOfEntries (source.styles.map fun e =>
    (.null, e.tree)))

/-- How many collections can stand inside each other in a leaf or in a style tree. It stands for the
recursion limit of the interpreter, a thousand calls, of which each collection takes two. -/
def maxDepth : Nat := 480

/-- How many mappings can stand inside each other around a leaf. It stands for the same limit; each of
them takes one call, and some calls are under way already. -/
def maxPath : Nat := 950

/-- Whether more collections stand inside each other in a source than can be worked on. -/
def isTooDeep (source : Source) : Bool :=
  source.mappings.any (fun v => maxPath < v.depth || maxDepth < v.depthOfLeaves) ||
    source.styles.any fun e => maxDepth < e.tree.depth

/-- Why a source cannot be worked on, if it cannot. -/
def fault? (source : Source) : Option Fault :=
  if source.any Scalar.isAgain || source.isTooDeep then some .endless
  else if source.any fun s => !s.isWritable then some (.tooManyDigits none)
  else none

end Source

end ThemedCss
