import ThemedCss.Fault
import ThemedCss.File.Path
import ThemedCss.OrderedMap

/-!
# Trees of files

The files that a command can see, with their texts. A path is followed name by name: each one but
the last has to be that of a directory, also in front of a way up.

* `FileTree`: the files and the working directory;
* `FileTree.find`: what a path leads to;
* `FileTree.makeDirectories`: directories made;
* **`FileTree.write`**: a file written, with the directories that it needs.
-/

namespace ThemedCss

/-- The files that there are. A directory is known by what is in it, or by its path. -/
structure FileTree where
  working : Path := { root := "/" }
  files : List (Path × Text) := []
  directories : List Path := []

/-- What a path leads to. -/
inductive FileTree.Entry
  | file (text : Text)
  | directory
  deriving DecidableEq

namespace FileTree

/-- The full path of a path, with every way up followed. -/
def resolve (tree : FileTree) (p : Path) : Path := (tree.working.join p).normal

/-- Whether a full path without ways up is that of a directory. -/
def hasDirectory (tree : FileTree) (p : Path) : Bool :=
  p = tree.working || tree.working.isBelow p || p ∈ tree.directories ||
    tree.files.any fun (f, _) => f.isBelow p

/-- What a full path without ways up leads to. -/
def entry? (tree : FileTree) (p : Path) : Option Entry :=
  match Entries.get? p tree.files with
  | some text => some (.file text)
  | none => if tree.hasDirectory p then some .directory else none

/-- What some names lead to from a place. A name that is too long is one only where there is a
directory to look it up in. -/
def follow (tree : FileTree) (place : Path) : List Text → Except Fault (Option Entry)
  | [] => .ok (tree.entry? place)
  | name :: names =>
    match tree.entry? place with
    | some .directory =>
      if Path.isTooLong name then .error .nameTooLong
      else tree.follow (if name = Path.up then place.parent else place.child name) names
    | _ => .ok none

/-- What a path leads to. -/
def find (tree : FileTree) (p : Path) : Except Fault (Option Entry) :=
  if p.isTooLongAsWhole then .error .nameTooLong
  else
    let start : Path := if p.root = [] then tree.working else { root := p.root }
    tree.follow start p.parts

/-- Whether a path leads to anything. -/
def has (tree : FileTree) (p : Path) : Except Fault Bool := do return (← tree.find p).isSome

/-- The text of a file. -/
def read? (tree : FileTree) (p : Path) : Option Text :=
  match tree.find p with
  | .ok (some (.file text)) => some text
  | _ => none

/-- The tree with some directories made, the nearest first, as far as there are none: no file may
stand in their way. -/
def makeDirectories (tree : FileTree) : List Path → Except Fault FileTree
  | [] => .ok tree
  | d :: above => do
    match ← tree.find d with
    | some .directory => return tree
    | some (.file _) => .error .fileExists
    | none =>
      if above.any fun d => (tree.read? d).isSome then .error .notDirectory
      else if Path.isTooLong d.name then .error .nameTooLong
      else
        let tree ← makeDirectories tree above
        return { tree with directories := tree.resolve d :: tree.directories }

/-- The tree with a file written; directories that there are not are made. -/
def write (tree : FileTree) (p : Path) (text : Text) : Except Fault FileTree := do
  let tree ← tree.makeDirectories p.parent.ancestors
  match ← tree.find p with
  | some .directory => .error .isDirectory
  | _ => return { tree with files := Entries.put (tree.resolve p) text tree.files }

end FileTree

end ThemedCss
