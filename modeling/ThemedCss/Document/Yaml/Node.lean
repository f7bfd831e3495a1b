import ThemedCss.Document.Yaml.Tag
import ThemedCss.Document.Yaml.Token

/-!
# Nodes of YAML documents

A document as a graph: texts, sequences and mappings, which refer to the nodes in them by their
numbers. So an alias refers to the very node that it names, even from inside it.

* `Yaml.Node`, `Yaml.Graph`;
* `Yaml.Nodes`: the nodes so far, and those that can be named;
* `Yaml.node`: the node at the front of some tokens;
* **`Yaml.document`**: the graph of a document, if it holds one.
-/

namespace ThemedCss.Yaml

/-- A node of a document with its tag. The nodes in it are given by their numbers. -/
inductive Node
  | scalar (tag : Tag) (text : Text)
  | sequence (tag : Tag) (items : List Nat)
  | mapping (tag : Tag) (entries : List (Nat × Nat))

/-- The nodes of a document by their numbers. -/
abbrev Graph := Array Node

/-- The nodes so far, and the numbers of those with names. -/
structure Nodes where
  graph : Graph := #[]
  anchors : List (Text × Nat) := []

namespace Nodes

/-- One more node. -/
def add (ns : Nodes) (n : Node) : Nat × Nodes :=
  (ns.graph.size, { ns with graph := ns.graph.push n })

/-- The node where nothing stands. -/
def addEmpty (ns : Nodes) : Nat × Nodes := ns.add (.scalar .null [])

/-- A node in the place of another. -/
def put (ns : Nodes) (id : Nat) (n : Node) : Nodes :=
  { ns with graph := ns.graph.setIfInBounds id n }

/-- A node with a name, if it has one. -/
def bind (ns : Nodes) (name : Option Text) (id : Nat) : Nodes :=
  match name with
  | none => ns
  | some a => { ns with anchors := (a, id) :: ns.anchors }

/-- The node with a name. -/
def find? (ns : Nodes) (name : Text) : Option Nat :=
  (ns.anchors.find? (·.1 = name)).map Prod.snd

/-- Whether a name is taken. -/
def isTaken (ns : Nodes) (name : Option Text) : Bool := name.any fun a => (ns.find? a).isSome

end Nodes

/-- The meanings of the handles of tags. -/
abbrev Handles := List (Text × Text)

/-- The handles that every document knows. -/
def standardHandles : Handles := [("!", "!"), ("!!", coreTag)]

/-- Something read from the front of some tokens, with the nodes that were added. -/
abbrev Parse (α : Type) := Except Problem (α × List Token × Nodes)

/-- What stands in front of a node: its name and its tag. -/
structure Properties where
  anchor : Option Text := none
  tag : Option (Option Text × Text) := none

/-- The properties at the front of some tokens, in either order. -/
def properties : List Token → Properties × List Token
  | .anchor a :: .tag handle suffix :: ts => (⟨some a, some (handle, suffix)⟩, ts)
  | .anchor a :: ts => (⟨some a, none⟩, ts)
  | .tag handle suffix :: .anchor a :: ts => (⟨some a, some (handle, suffix)⟩, ts)
  | .tag handle suffix :: ts => (⟨none, some (handle, suffix)⟩, ts)
  | ts => ({}, ts)

theorem properties_length_le (ts : List Token) : (properties ts).2.length ≤ ts.length := by
  unfold properties
  split <;> simp <;> omega

/-- A whole tag, from its handle and its suffix. -/
def fullTag (handles : Handles) : Option (Option Text × Text) → Except Problem (Option Text)
  | none => .ok none
  | some (none, suffix) => .ok (some suffix)
  | some (some handle, suffix) =>
    match handles.find? (·.1 = handle) with
    | some (_, start) => .ok (some (start ++ suffix))
    | none => .error .unknownTag

/-- The tag of a text: where no other is given, a plain one implies it. -/
def scalarTag (name : Option Text) (plain : Bool) (text : Text) : Tag :=
  match name with
  | none => if plain then .implied text else .text
  | some name => if name = ("!" : Text) then .implied text else .ofName name

/-- The tag of a node with parts. -/
def partsTag (name : Option Text) (default : Tag) : Tag :=
  match name with
  | none => default
  | some name => if name = ("!" : Text) then default else .ofName name

/-- Whether some tokens begin with one for which a test holds, or there are none. -/
def startsWith (p : Token → Bool) : List Token → Bool
  | [] => true
  | t :: _ => p t

/-- Whether a token ends an item of a block. -/
def endsEntry (t : Token) : Bool := t = .entry || t = .blockEnd

/-- Whether a token ends a key or a value of a block. -/
def endsPart (t : Token) : Bool := t = .key || t = .value || t = .blockEnd

/-- Whether a token ends an item in brackets. -/
def endsItem (close t : Token) : Bool := t = .comma || t = close

/-- Whether a token ends a key in brackets. -/
def endsKey (close t : Token) : Bool := t = .value || endsItem close t

/-- Where a node stands. -/
inductive Place
  /-- In brackets. -/
  | flow
  /-- In a block. -/
  | block
  /-- In a mapping of a block, where the items of a sequence need no indentation. -/
  | part
  deriving DecidableEq

/-- What holds in a part of a document. -/
structure Scope where
  handles : Handles
  /-- How many collections can still stand inside each other. -/
  room : Nat

/-- The number of collections that can stand inside each other. -/
def maxDepth : Nat := 480

/-- What holds in a collection, if one more can stand there. -/
def Scope.inner (s : Scope) : Scope := { s with room := s.room - 1 }

/-- Whether a token starts a collection. -/
def startsCollection (t : Token) : Bool :=
  t = .flowSequence || t = .flowMapping || t = .blockSequence || t = .blockMapping

/-- The tokens behind one that is expected. -/
def expect (t : Token) : List Token → Except Problem (List Token)
  | [] => .error .truncated
  | u :: ts => if u = t then .ok ts else .error .unexpectedToken

/-- The tokens behind a comma; in front of the first item there is none. -/
def behindComma (first : Bool) (close : Token) (ts : List Token) : Except Problem (List Token) :=
  if first ∨ ts.head? = some close then .ok ts else expect .comma ts

mutual

/-- The node at the front of some tokens. -/
def node (scope : Scope) (place : Place) (ts : List Token) (ns : Nodes) : Parse Nat :=
  match ts with
  | .alias a :: rest =>
    match ns.find? a with
    | some id => .ok (id, rest, ns)
    | none => .error .undefinedAlias
  | ts =>
    match fullTag scope.handles (properties ts).1.tag with
    | .error p => .error p
    | .ok tag =>
      if ns.isTaken (properties ts).1.anchor then .error .repeatedAnchor
      else content scope place tag (properties ts).1 (properties ts).2 ns
termination_by (ts.length, 2)
decreasing_by
  have := properties_length_le ts
  rw [Prod.lex_def]
  simp only
  omega

/-- The node behind its properties; where there are some, it may be missing. The name of a
collection is known inside it already. -/
def content (scope : Scope) (place : Place) (tag : Option Text) (props : Properties)
    (ts : List Token) (ns : Nodes) : Parse Nat :=
  let id := ns.graph.size
  let inner := (ns.addEmpty.2).bind props.anchor id
  let scalar (n : Node) (rest : List Token) : Parse Nat :=
    .ok (id, rest, (ns.add n).2.bind props.anchor id)
  let sequence : List Nat × List Token × Nodes → Nat × List Token × Nodes :=
    fun (items, rest, ns) => (id, rest, ns.put id (.sequence (partsTag tag .sequence) items))
  let mapping : List (Nat × Nat) × List Token × Nodes → Nat × List Token × Nodes :=
    fun (entries, rest, ns) => (id, rest, ns.put id (.mapping (partsTag tag .mapping) entries))
  if scope.room = 0 ∧ startsWith startsCollection ts then .error (.fault .endless)
  else if place = .part ∧ ts.head? = some .entry then
    (plainItems scope.inner ts inner).map sequence
  else match ts with
  | .scalar text plain :: rest => scalar (.scalar (scalarTag tag plain text) text) rest
  | .flowSequence :: rest => (flowItems scope.inner true rest inner).map sequence
  | .flowMapping :: rest => (flowEntries scope.inner true rest inner).map mapping
  | .blockSequence :: rest =>
    if place = .flow then .error .unexpectedToken
    else (blockItems scope.inner rest inner).map sequence
  | .blockMapping :: rest =>
    if place = .flow then .error .unexpectedToken
    else (blockEntries scope.inner rest inner).map mapping
  | rest =>
    if props.anchor.isSome ∨ props.tag.isSome then scalar (.scalar (scalarTag tag true []) []) rest
    else .error (if rest = [] then .truncated else .unexpectedToken)
termination_by (ts.length, 1)

/-- A node, or the empty one in front of a token that ends it. -/
def nodeOrEmpty (scope : Scope) (place : Place) (ends : Token → Bool) (ts : List Token)
    (ns : Nodes) : Parse Nat :=
  if startsWith ends ts then .ok (ns.addEmpty.1, ts, ns.addEmpty.2) else node scope place ts ns
termination_by (ts.length, 3)

/-- The items of a block up to its end. -/
def blockItems (scope : Scope) (ts : List Token) (ns : Nodes) : Parse (List Nat) :=
  match ts with
  | .blockEnd :: rest => .ok ([], rest, ns)
  | .entry :: inner =>
    match nodeOrEmpty scope .block endsEntry inner ns with
    | .error p => .error p
    | .ok (n, rest, ns) =>
      if _h : rest.length < inner.length + 1 then
        (blockItems scope rest ns).map fun (items, more) => (n :: items, more)
      else .error .unexpectedToken
  | [] => .error .truncated
  | _ => .error .unexpectedToken
termination_by (ts.length, 0)

/-- The items of a sequence without an indentation of its own. -/
def plainItems (scope : Scope) (ts : List Token) (ns : Nodes) : Parse (List Nat) :=
  match ts with
  | .entry :: inner =>
    match nodeOrEmpty scope .block (fun t => t = .entry || endsPart t) inner ns with
    | .error p => .error p
    | .ok (n, rest, ns) =>
      if _h : rest.length < inner.length + 1 then
        (plainItems scope rest ns).map fun (items, more) => (n :: items, more)
      else .error .unexpectedToken
  | rest => .ok ([], rest, ns)
termination_by (ts.length, 0)

/-- The entries of a block up to its end. -/
def blockEntries (scope : Scope) (ts : List Token) (ns : Nodes) :
    Parse (List (Nat × Nat)) :=
  match ts with
  | .blockEnd :: rest => .ok ([], rest, ns)
  | .key :: inner =>
    match nodeOrEmpty scope .part endsPart inner ns with
    | .error p => .error p
    | .ok (k, behind, ns) =>
      if _h : behind.length < inner.length + 1 then
        match valueOf scope .part endsPart behind ns with
        | .error p => .error p
        | .ok (v, rest, ns) =>
          if _h : rest.length < inner.length + 1 then
            (blockEntries scope rest ns).map fun (entries, more) => ((k, v) :: entries, more)
          else .error .unexpectedToken
      else .error .unexpectedToken
  | [] => .error .truncated
  | _ => .error .unexpectedToken
termination_by (ts.length, 0)

/-- The value behind a key, which is empty when no colon stands there. -/
def valueOf (scope : Scope) (place : Place) (ends : Token → Bool) (ts : List Token)
    (ns : Nodes) : Parse Nat :=
  match ts with
  | .value :: inner => nodeOrEmpty scope place ends inner ns
  | rest => .ok (ns.addEmpty.1, rest, ns.addEmpty.2)
termination_by (ts.length, 0)

/-- The items in brackets up to the closing one; a key makes a mapping of one entry. -/
def flowItems (scope : Scope) (first : Bool) (ts : List Token) (ns : Nodes) :
    Parse (List Nat) :=
  match behindComma first .flowSequenceEnd ts with
  | .error p => .error p
  | .ok (.flowSequenceEnd :: rest) => .ok ([], rest, ns)
  | .ok (.key :: inner) =>
    if _h : inner.length < ts.length then
      match nodeOrEmpty scope .flow (endsKey .flowSequenceEnd) inner ns with
      | .error p => .error p
      | .ok (k, behind, ns) =>
        if _h : behind.length < ts.length then
          match valueOf scope .flow (endsItem .flowSequenceEnd) behind ns with
          | .error p => .error p
          | .ok (v, rest, ns) =>
            if _h : rest.length < ts.length then
              let (pair, ns) := ns.add (.mapping .mapping [(k, v)])
              (flowItems scope false rest ns).map fun (items, more) => (pair :: items, more)
            else .error .unexpectedToken
        else .error .unexpectedToken
    else .error .unexpectedToken
  | .ok inner =>
    if _h : inner.length ≤ ts.length then
      match node scope .flow inner ns with
      | .error p => .error p
      | .ok (n, rest, ns) =>
        if _h : rest.length < ts.length then
          (flowItems scope false rest ns).map fun (items, more) => (n :: items, more)
        else .error .unexpectedToken
    else .error .unexpectedToken
termination_by (ts.length, 4)
decreasing_by all_goals (rw [Prod.lex_def]; simp only; omega)

/-- The entries in braces up to the closing one; a node alone is a key with an empty value. -/
def flowEntries (scope : Scope) (first : Bool) (ts : List Token) (ns : Nodes) :
    Parse (List (Nat × Nat)) :=
  match behindComma first .flowMappingEnd ts with
  | .error p => .error p
  | .ok (.flowMappingEnd :: rest) => .ok ([], rest, ns)
  | .ok (.key :: inner) =>
    if _h : inner.length < ts.length then
      match nodeOrEmpty scope .flow (endsKey .flowMappingEnd) inner ns with
      | .error p => .error p
      | .ok (k, behind, ns) =>
        if _h : behind.length < ts.length then
          match valueOf scope .flow (endsItem .flowMappingEnd) behind ns with
          | .error p => .error p
          | .ok (v, rest, ns) =>
            if _h : rest.length < ts.length then
              (flowEntries scope false rest ns).map fun (entries, more) =>
                ((k, v) :: entries, more)
            else .error .unexpectedToken
        else .error .unexpectedToken
    else .error .unexpectedToken
  | .ok inner =>
    if _h : inner.length ≤ ts.length then
      match node scope .flow inner ns with
      | .error p => .error p
      | .ok (k, rest, ns) =>
        if _h : rest.length < ts.length then
          let (v, ns) := ns.addEmpty
          (flowEntries scope false rest ns).map fun (entries, more) => ((k, v) :: entries, more)
        else .error .unexpectedToken
    else .error .unexpectedToken
termination_by (ts.length, 4)
decreasing_by all_goals (rw [Prod.lex_def]; simp only; omega)

end

/-- Whether a token stands between documents. -/
def isBetween : Token → Bool
  | .version _ | .handle .. | .directive | .documentStart | .documentEnd => true
  | _ => false

/-- What the instructions for the reader say. -/
structure Directives where
  version : Option Nat := none
  handles : Handles := []

/-- One more instruction. The version can be given once, as can each handle. -/
def Directives.add (d : Directives) : Token → Except Problem Directives
  | .version major =>
    if d.version.isSome ∨ major ≠ 1 then .error .directive
    else .ok { d with version := some major }
  | .handle name start =>
    if d.handles.any (·.1 = name) then .error .directive
    else .ok { d with handles := (name, start) :: d.handles }
  | _ => .ok d

/-- The handles that the instructions at the front of some tokens leave, and the tokens behind
those that start the document. -/
def directives (d : Directives) : List Token → Except Problem (Handles × List Token)
  | .version major :: ts => do directives (← d.add (.version major)) ts
  | .handle name start :: ts => do directives (← d.add (.handle name start)) ts
  | .directive :: ts => directives d ts
  | ts => do return (d.handles ++ standardHandles, ← expect .documentStart ts)

/-- The graph of a document and the number of its node. Behind it nothing may stand but its end. -/
def document (ts : List Token) : Except Problem (Option (Graph × Nat)) :=
  match ts with
  | [] => .ok none
  | t :: _ => do
    let (id, rest, ns) ←
      if isBetween t then
        let (handles, inner) ← directives {} ts
        nodeOrEmpty ⟨handles, maxDepth⟩ .block isBetween inner {}
      else node ⟨standardHandles, maxDepth⟩ .block ts {}
    if rest.all (· = .documentEnd) then return some (ns.graph, id) else .error .severalDocuments

end ThemedCss.Yaml
