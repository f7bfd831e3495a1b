import ThemedCss.Text

/-!
# Paths

* `Path`: the names that lead to a file, from a root or from the working directory;
* `Path.ofText`, `Path.text`: reading and writing a path;
* `Path.name`, `Path.suffix`, `Path.parent`, `Path.ancestors`: parts of a path;
* `Path.join`, `Path.normal`: a path below another, and one without ways up;
* `Path.relativeTo`: a path as seen from a directory above it;
* `Path.isTooLong`: names that no file can have.
-/

namespace ThemedCss

/-- The names that lead to a file or a directory. Without a root they start in the working
directory. -/
structure Path where
  root : Text := []
  parts : List Text := []
  deriving DecidableEq

namespace Path

/-- The pieces of a text between slashes, without those that say nothing. -/
def partsOf (t : Text) : List Text :=
  (t.splitOnP (· = '/')).filter fun part => part ≠ [] ∧ part ≠ ['.']

/-- The path that a text spells. Exactly two slashes at its start are a root of their own. -/
def ofText (t : Text) : Path :=
  let slashes := (t.takeWhile (· = '/')).length
  ⟨if slashes = 0 then "" else if slashes = 2 then "//" else "/", partsOf t⟩

/-- The text of a path. -/
def text (p : Path) : Text :=
  if p.root = [] ∧ p.parts = [] then "." else p.root ++ List.intercalate "/" p.parts

/-- The last name of a path. -/
def name (p : Path) : Text := p.parts.getLast?.getD []

/-- The end of the last name from its last point on, when something stands on both sides of it. -/
def suffix (p : Path) : Text :=
  match p.name.reverse.span (· ≠ '.') with
  | (c :: rest, _ :: _ :: _) => '.' :: (c :: rest).reverse
  | _ => []

/-- The directory of a path. -/
def parent (p : Path) : Path := ⟨p.root, p.parts.dropLast⟩

/-- A path and the directories above it, the nearest first. -/
def ancestors (p : Path) : List Path :=
  (List.range (p.parts.length + 1)).reverse.map fun n => ⟨p.root, p.parts.take n⟩

/-- A path below a directory; one with a root is left as it is. -/
def join (directory p : Path) : Path :=
  if p.root = [] then ⟨directory.root, directory.parts ++ p.parts⟩ else p

/-- The name of the way up. -/
def up : Text := ".."

/-- The number of bytes of a text in UTF-8. -/
def byteCount (t : Text) : Nat := (t.map Char.utf8Size).foldl (· + ·) 0

/-- Whether a name has more bytes than a file can have in its name. -/
def isTooLong (name : Text) : Bool := 255 < byteCount name

/-- Whether a path has more bytes than can be looked up. -/
def isTooLongAsWhole (p : Path) : Bool := 4095 < byteCount p.text

/-- The path to a name in a directory. -/
def child (directory : Path) (name : Text) : Path := ⟨directory.root, directory.parts ++ [name]⟩

/-- A path with every way up followed. -/
def normal (p : Path) : Path :=
  ⟨p.root, p.parts.foldl (fun parts part =>
    if part = up then parts.dropLast else parts ++ [part]) []⟩

/-- Whether a path leads to something below a directory. -/
def isBelow (p directory : Path) : Bool :=
  p.root = directory.root && directory.parts.isPrefixOf p.parts &&
    directory.parts.length < p.parts.length

/-- A path as it is seen from a directory above it. -/
def relativeTo (directory p : Path) : Path :=
  if p.isBelow directory then { parts := p.parts.drop directory.parts.length } else p

end Path

end ThemedCss
