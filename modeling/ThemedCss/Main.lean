import ThemedCss.Command.Run
import ThemedCss.Command.Show

/-!
# The program

Reads the files that a command may need, runs the command, and shows how it ended.
-/

namespace ThemedCss.Program

/-- A text as a string. -/
def string (t : Text) : String := String.ofList t

/-- The text of a file, if it can be read. -/
def read? (path : Path) : IO (Option Text) := do
  try return some (← IO.FS.readFile (string path.text)).toList
  catch _ => return none

/-- The tree with a file that can be read. -/
def withFile (tree : FileTree) (path : Path) : IO FileTree := do
  match ← read? path with
  | some text => return { tree with files := (tree.resolve path, text) :: tree.files }
  | none => return tree

/-- Whether a path is that of a directory: only then it can be opened with a point behind it. -/
def isDirectory (path : Path) : IO Bool := do
  try
    let _ ← IO.FS.Handle.mk (string (path.text ++ "/.")) .read
    return true
  catch _ => return false

/-- The tree with the directories above some paths. -/
def withDirectories (tree : FileTree) (paths : List Path) : IO FileTree := do
  let present ← (paths.flatMap fun p => p.ancestors).filterM isDirectory
  return { tree with directories := present.map tree.resolve }

/-- Writes a file and makes the directories that it needs. -/
def write (path : Path) (text : Text) : IO Unit := do
  IO.FS.createDirAll (string path.parent.text)
  IO.FS.writeFile (string path.text) (string text)

/-- Runs a command among the files that there are. -/
def perform (command : Command) : IO Command.Outcome := do
  let working := Path.ofText (toString (← IO.currentDir)).toList
  let empty : FileTree := { working := working }
  let reads := command.reads empty
  let known ← withDirectories empty (reads ++ command.writes?.toList)
  let tree ← reads.foldlM withFile known
  let (outcome, written) := command.run tree
  if let some path := command.writes? then
    if let some text := written.read? path then
      if tree.read? path ≠ some text then write path text
  return outcome

end ThemedCss.Program

/-- The program: its exit code says how the command ended. -/
def main (arguments : List String) : IO UInt32 := do
  let outcome ← match ThemedCss.Command.ofArguments? (arguments.map String.toList) with
    | some command => ThemedCss.Program.perform command
    | none => pure .usage
  IO.print (ThemedCss.Program.string outcome.standardText)
  IO.eprint (ThemedCss.Program.string outcome.errorText)
  return outcome.exitCode.toUInt32
