import ThemedCss.Value

/-!
# Tables of TOML documents

The tables of a document while they are written. What may still be added to a table depends on
how it came about; a value, even one with parts, is complete when it is written.

* `Toml.Origin`, `Toml.Item`, `Toml.Items`: tables and what is in them;
* `Items.within`: a change of the table that a header leads to;
* `Items.declare`, `Items.append`: the table of a header, and one more of several tables;
* `Items.assign`: a value under a key, which may have several parts;
* **`Items.fields`**: the tables as values.
-/

namespace ThemedCss.Toml

/-- How a table came about. -/
inductive Origin
  /-- Through the header of a table in it. -/
  | implied
  /-- Through its own header. -/
  | declared
  /-- Through a key with several parts, in the section with a number. -/
  | dotted (section_ : Nat)

/-- What is under a key of a table. -/
inductive Item
  | value (v : Value)
  | table (origin : Origin) (items : List (Text × Item))
  /-- Several tables, of which only the last one can change. -/
  | tables (earlier : List (List (Text × Item))) (last : List (Text × Item))

/-- What is in a table. -/
abbrev Items := List (Text × Item)

namespace Items

/-- A change of what is under a key; a new key comes last. -/
def update (key : Text) (change : Option Item → Option Item) : Items → Option Items
  | [] => (change none).map fun i => [(key, i)]
  | (k, i) :: items =>
    if k = key then (change (some i)).map fun i => (k, i) :: items
    else (update key change items).map ((k, i) :: ·)

/-- A change of the table that a path of headers leads to; tables on the way are made when there
are none. -/
def within (change : Items → Option Items) : List Text → Items → Option Items
  | [], items => change items
  | key :: path, items =>
    items.update key fun
      | none => (within change path []).map (.table .implied)
      | some (.table origin inner) => (within change path inner).map (.table origin)
      | some (.tables earlier last) => (within change path last).map (.tables earlier)
      | some (.value _) => none

/-- The header of a table, which must have had none before. -/
def declare (path : List Text) (items : Items) : Option Items := do
  let key ← path.getLast?
  items.within (update key fun
    | none => some (.table .declared [])
    | some (.table .implied inner) => some (.table .declared inner)
    | some _ => none) path.dropLast

/-- The header of one more of several tables. -/
def append (path : List Text) (items : Items) : Option Items := do
  let key ← path.getLast?
  items.within (update key fun
    | none => some (.tables [] [])
    | some (.tables earlier last) => some (.tables (earlier ++ [last]) [])
    | some _ => none) path.dropLast

/-- A value under a new key. The tables that the parts of the key name are made in its section, or
have no header of their own. -/
def assign (section_ : Nat) (v : Value) : List Text → Items → Option Items
  | [], _ => none
  | [key], items =>
    items.update key fun
      | none => some (.value v)
      | some _ => none
  | key :: path, items =>
    items.update key fun
      | none => (assign section_ v path []).map (.table (.dotted section_))
      | some (.table .implied inner) =>
        (assign section_ v path inner).map (.table (.dotted section_))
      | some (.table (.dotted s) inner) =>
        if s = section_ then (assign section_ v path inner).map (.table (.dotted section_))
        else none
      | some _ => none

end Items

mutual

/-- What is under a key, as a value. -/
def Item.toValue : Item → Value
  | .value v => v
  | .table _ items => .map (fields items)
  | .tables earlier last => .list (allFields earlier ++ [.map (fields last)])

/-- What is in a table, as the fields of a mapping. -/
def fields : List (Text × Item) → List (Scalar × Value)
  | [] => []
  | (k, i) :: items => (.text k, i.toValue) :: fields items

/-- Several tables as mappings. -/
def allFields : List (List (Text × Item)) → List Value
  | [] => []
  | items :: more => .map (fields items) :: allFields more

end

end ThemedCss.Toml
