import ThemedCss.Document.Yaml.Node

/-!
# Merge keys of YAML documents

The entries of the mappings that a merge key names come before those of its own mapping.

* `Graph.node`, `Graph.entries`: the nodes of a graph;
* `Graph.mergeCount`: how much is left to merge;
* **`Graph.flatten`**: a graph in which a mapping has no merge keys.
-/

namespace ThemedCss.Yaml

/-- The tag of a node. -/
def Node.tag : Node → Tag
  | .scalar tag _ => tag
  | .sequence tag _ => tag
  | .mapping tag _ => tag

/-- The entries of a node, if it is a mapping. -/
def Node.entries : Node → List (Nat × Nat)
  | .mapping _ entries => entries
  | _ => []

/-- Whether a node is a mapping. -/
def Node.isMapping : Node → Bool
  | .mapping .. => true
  | _ => false

/-- A node with a tag that counts as another one: the key of the value of a mapping as a whole is a
text once the mapping is read as one. -/
def Node.asText : Node → Node
  | .scalar .value t => .scalar .text t
  | .sequence .value items => .sequence .text items
  | .mapping .value entries => .mapping .text entries
  | n => n

namespace Graph

/-- The node with a number. -/
def node (g : Graph) (id : Nat) : Node := g[id]?.getD (.scalar .null [])

/-- The entries of a mapping. -/
def entries (g : Graph) (id : Nat) : List (Nat × Nat) := (g.node id).entries

/-- The graph with other entries in a mapping. -/
def withEntries (g : Graph) (id : Nat) (entries : List (Nat × Nat)) : Graph :=
  g.setIfInBounds id (.mapping (g.node id).tag entries)

/-- Whether an entry merges other mappings into its own. -/
def isMerge (g : Graph) (entry : Nat × Nat) : Bool := (g.node entry.1).tag = .merge

/-- The number of entries that merge mappings. -/
def mergeCount (g : Graph) : Nat :=
  (g.toList.map fun n => n.entries.countP g.isMerge).foldl (· + ·) 0

/-- What the first merge key among some entries names, and the other entries. -/
def takeMerge? (g : Graph) : List (Nat × Nat) → Option (Nat × List (Nat × Nat))
  | [] => none
  | entry :: entries =>
    if g.isMerge entry then some (entry.2, entries)
    else (g.takeMerge? entries).map fun (source, rest) => (source, entry :: rest)

/-- The graph with the mapping of a number flattened: what is to be merged in front of its entries
is known, and the keys of its own entries are texts. -/
def finish (g : Graph) (id : Nat) (merged : List (Nat × Nat)) : Graph :=
  let own := g.entries id
  let g := own.foldl (fun g (k, _) => g.setIfInBounds k (g.node k).asText) g
  if merged = [] then g else g.withEntries id (merged ++ own)

mutual

/-- The graph with a mapping flattened, when some entries have been merged already. Each step takes
a merge key out of the graph. -/
def flattenWith (fuel : Nat) (id : Nat) (merged : List (Nat × Nat)) (g : Graph) :
    Except Problem Graph :=
  match fuel, g.takeMerge? (g.entries id) with
  | fuel + 1, some (source, rest) => do
    let (added, g) ← sourceEntries fuel source (g.withEntries id rest)
    flattenWith fuel id (merged ++ added) g
  | _, _ => .ok (g.finish id merged)
termination_by (fuel, 0, 0)

/-- The entries that a merge key names: those of a mapping, or of several, the last one first. -/
def sourceEntries (fuel : Nat) (source : Nat) (g : Graph) :
    Except Problem (List (Nat × Nat) × Graph) :=
  match g.node source with
  | .mapping .. => do
    let g ← flattenWith fuel source [] g
    return (g.entries source, g)
  | .sequence _ items => itemEntries fuel items g
  | .scalar .. => .error .unusableMerge
termination_by (fuel, 2, 0)

/-- The entries of some mappings, the last one first. -/
def itemEntries (fuel : Nat) (items : List Nat) (g : Graph) :
    Except Problem (List (Nat × Nat) × Graph) :=
  match items with
  | [] => .ok ([], g)
  | id :: items =>
    if (g.node id).isMapping then do
      let g ← flattenWith fuel id [] g
      let own := g.entries id
      let (others, g) ← itemEntries fuel items g
      return (others ++ own, g)
    else .error .unusableMerge
termination_by (fuel, 1, items.length)

end

/-- The graph with a mapping flattened. -/
def flatten (g : Graph) (id : Nat) : Except Problem Graph := flattenWith g.mergeCount id [] g

end Graph

end ThemedCss.Yaml
