import ThemedCss.Document.Bytes
import ThemedCss.Document.Yaml.Merge
import ThemedCss.Document.Yaml.Number

/-!
# YAML documents

Reads the data format of YAML into values. Plain texts stand for numbers and other scalars, and a
key that comes again keeps its first place and takes its last value.

The parts of a list or a mapping are looked at only after everything that stands beside it. So of
several problems the first one on the level that is nearest to the root counts.

* `Yaml.scalarOf`: the scalar of a text with its tag;
* `Yaml.Cell`, `Yaml.Reading`: what nodes stand for, while a document is read;
* `Reading.run`: all that is in a document, level by level;
* `Reading.value`: the value of a node, cut off where it comes again inside itself;
* **`Yaml.parse`**: the value of a document, which is null when there is none.
-/

namespace ThemedCss.Yaml

/-! ## Scalars -/

/-- The truth value of a word. -/
def truthOf (t : Text) : Except Fault Scalar :=
  let word := t.map Char.toLower
  if word ∈ (["yes", "true", "on"] : List Text) then .ok (.bool true)
  else if word ∈ (["no", "false", "off"] : List Text) then .ok (.bool false)
  else .error .missing

/-- The scalar of a text with its tag. -/
def scalarOf (tag : Tag) (t : Text) : Except Problem Scalar :=
  match tag with
  | .text => .ok (.text t)
  | .null => .ok .null
  | .truth => (truthOf t).mapError .fault
  | .integer => (integerOf t).mapError .fault |>.map .int
  | .float => (floatOf t).mapError .fault |>.map .float
  | .moment => (momentOf t).mapError .fault
  | .bytes => match Bytes.ofBase64? t with
    | some bytes => .ok (Bytes.value bytes)
    | none => .error .malformedBytes
  | _ => .error .unknownTag

/-- The text of a node: of a mapping, the one that it has as a whole, which may again be that of a
mapping. -/
def Graph.content (g : Graph) : Nat → Nat → Except Problem Text
  | 0, _ => .error (.fault .endless)
  | fuel + 1, id =>
    match g.node id with
    | .scalar _ t => .ok t
    | .mapping _ entries =>
      match entries.find? fun (k, _) => (g.node k).tag = .value with
      | some (_, v) => g.content fuel v
      | none => .error .tagMismatch
    | .sequence .. => .error .tagMismatch

/-- The scalar of a node, whose tag says that it is one. A moment has its form as a text only. -/
def Graph.atom (g : Graph) (id : Nat) : Except Problem (Scalar × Text) := do
  let n := g.node id
  if n.tag = .unknown ∨ n.tag = .merge ∨ n.tag = .value then .error .unknownTag
  else
    let t ← g.content (g.size + 1) id
    if n.tag = .moment ∧ n.isMapping then .error (.fault .notJoinable)
    else return (← scalarOf n.tag t, t)

/-! ## Reading -/

/-- A scalar, and what it is told apart by as a key besides. Of numbers that are none only those
that are spelled with a point are all one key. -/
structure Atom where
  scalar : Scalar
  identity : Option Nat := none
  deriving DecidableEq

/-- Whether two scalars are one key. -/
def Atom.sameKey (a b : Atom) : Bool := a.scalar.sameKey b.scalar && a.identity = b.identity

/-- What a node stands for. What is in it is given by numbers of nodes. -/
inductive Cell
  | atom (a : Atom)
  | list (items : List Nat)
  | pairs (items : List (Nat × Nat))
  | map (fields : List (Atom × Nat))
  | set (members : List Scalar)

/-- A document that is being read: its graph, and what some of its nodes stand for. The parts of a
collection are filled in later. -/
structure Reading where
  graph : Graph
  cells : Array (Option Cell)

namespace Reading

/-- What a node stands for. -/
def cell? (r : Reading) (id : Nat) : Option Cell := (r.cells[id]?).join

/-- The node with a number stands for something. -/
def put (r : Reading) (id : Nat) (c : Cell) : Reading :=
  { r with cells := r.cells.setIfInBounds id (some c) }

/-- What the node of a scalar stands for. -/
def atom (r : Reading) (id : Nat) : Except Problem Atom := do
  let (scalar, t) ← r.graph.atom id
  let isOwn : Bool := scalar = .float .nan ∧ !isWordOfNone t
  return ⟨scalar, if isOwn then some id else none⟩

/-- A node that is come to. The number of a collection which is new is handed out, to be filled in
later. -/
def visit (r : Reading) (id : Nat) : Except Problem (Reading × List Nat) :=
  if (r.cell? id).isSome then .ok (r, [])
  else if (r.graph.node id).tag.isCollection then .ok (r.put id (.list []), [id])
  else do return (r.put id (.atom (← r.atom id)), [])

/-- Some nodes that are come to in turn. -/
def visitAll (r : Reading) : List Nat → Except Problem (Reading × List Nat)
  | [] => .ok (r, [])
  | id :: ids => do
    let (r, first) ← r.visit id
    let (r, others) ← r.visitAll ids
    return (r, first ++ others)

/-- The scalar of a key. -/
def key (r : Reading) (id : Nat) : Except Problem Atom :=
  match r.cell? id with
  | some (.atom a) => .ok a
  | _ => .error .unusableKey

/-- An entry written under a key: an earlier entry of the key keeps its place and spelling. -/
def putField (key : Atom) (v : Nat) : List (Atom × Nat) → List (Atom × Nat)
  | [] => [(key, v)]
  | (k, w) :: fields =>
    if k.sameKey key then (k, v) :: fields else (k, w) :: putField key v fields

/-- The entries of a mapping that are come to in turn, behind those so far. -/
def fields (r : Reading) (found : List (Atom × Nat)) :
    List (Nat × Nat) → Except Problem (List (Atom × Nat) × Reading × List Nat)
  | [] => .ok (found, r, [])
  | (k, v) :: entries => do
    let (r, keys) ← r.visit k
    let key ← r.key k
    let (r, values) ← r.visit v
    let (found, r, others) ← r.fields (putField key v found) entries
    return (found, r, keys ++ values ++ others)

/-- The pairs of a sequence of mappings with one entry each. -/
def pairs (r : Reading) : List Nat → Except Problem (List (Nat × Nat) × Reading × List Nat)
  | [] => .ok ([], r, [])
  | id :: ids =>
    match r.graph.entries id with
    | [(k, v)] => do
      let (r, new) ← r.visitAll [k, v]
      let (found, r, others) ← r.pairs ids
      return ((k, v) :: found, r, new ++ others)
    | _ => .error .tagMismatch

/-- A collection that is filled in. -/
def fill (r : Reading) (id : Nat) : Except Problem (Reading × List Nat) :=
  match r.graph.node id with
  | .sequence .sequence items => do
    let (r, new) ← r.visitAll items
    return (r.put id (.list items), new)
  | .sequence .pairs items => do
    let (found, r, new) ← r.pairs items
    return (r.put id (.pairs found), new)
  | .mapping tag _ =>
    if tag = .mapping ∨ tag = .set then do
      let flat : Reading := { r with graph := ← r.graph.flatten id }
      let (found, r, new) ← flat.fields [] (flat.graph.entries id)
      let made := if tag = .set then Cell.set (found.map (·.1.scalar)) else .map found
      return (r.put id made, new)
    else .error .tagMismatch
  | _ => .error .tagMismatch

/-- The collections of some numbers filled in, and then those that they hold. Each one is filled in
once. -/
def run : Nat → List Nat → Reading → Except Problem Reading
  | fuel + 1, id :: ids, r => do
    let (r, new) ← r.fill id
    run fuel (ids ++ new) r
  | _, _, r => .ok r

/-! ## Values -/

/-- How often a node may stand inside itself before it is cut off. -/
def maxAgain : Nat := 2

/-- The mark of a place where a collection comes again inside itself. -/
def again (isMapping : Bool) : Value :=
  let text : Text := if isMapping then "\x7b...\x7d" else "[...]"
  .scalar (.special
    { kind := if isMapping then .mappingAgain else .listAgain
      text := text
      literal := text })

/-- The value of a node inside some others. -/
def value (r : Reading) : Nat → List Nat → Nat → Value
  | 0, _, _ => again true
  | fuel + 1, outer, id =>
    let isCut : Bool := maxAgain ≤ outer.count id
    let part := r.value fuel (id :: outer)
    match r.cell? id with
    | some (.atom a) => .scalar a.scalar
    | some (.set members) => .set members
    | some (.list items) => if isCut then again false else .list (items.map part)
    | some (.pairs items) =>
      if isCut then again false else .list (items.map fun (k, v) => .pair (part k) (part v))
    | some (.map fields) =>
      if isCut then again true else .map (fields.map fun (k, v) => (k.scalar, part v))
    | none => .null

end Reading

/-! ## Documents -/

/-- The value of a graph from one of its nodes on. -/
def Graph.value (g : Graph) (id : Nat) : Except Problem Value := do
  let (start, new) ← Reading.visit ⟨g, Array.replicate g.size none⟩ id
  let r ← Reading.run (g.size + 1) new start
  return r.value (Reading.maxAgain * g.size + 1) [] id

/-- The graph of a document. A problem in its tokens counts as soon as it is come to. -/
def graphOf (document_ : Text) : Except Problem (Option (Graph × Nat)) :=
  match tokens document_ with
  | (ts, none) => document ts
  | (ts, some p) =>
    match document ts with
    | .error q => .error (if q = .truncated then p else q)
    | .ok _ => .error p

/-- The value of a document; without a node it is null. -/
def parse (document_ : Text) : Except Problem Value := do
  match ← graphOf document_ with
  | some (g, id) => g.value id
  | none => return .null

end ThemedCss.Yaml
