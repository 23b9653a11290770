import PackageRollup.CommandLine.Basic

/-!
# The program

Everything is decided by `CommandLine.execute`. Around it, the files that a command line can touch
are read into a tree beforehand, and what has changed in the tree is written out afterwards.
-/

namespace PackageRollup.Program

def shown (t : Text) : String :=
  String.ofList (t.map fun c ↦ if c.isSurrogate then '\uFFFD' else Char.ofNat c.val)

/-- The path of a location from the root on. -/
def absolutePath (l : Location) : String := shown ("/" ++ l.text)

/-- The entry at a location whose parent is a directory. -/
def readEntry (l : Location) : IO (Option Entry) := do
  try
    let content ← IO.FS.readBinFile (absolutePath l)
    return some (.file content.toList)
  catch
    | .noFileOrDirectory .. => return none
    | .inappropriateType .. => return some .directory
    | e => throw e

/-- Read what lies on a path into a tree. -/
def readAlong (t : Tree) (l : Location) : List Bytes → IO Tree
  | [] => return t
  | name :: names =>
    if name = Tree.parentName then readAlong t l.dropLast names
    else do
      let next := l ++ [name]
      match ← readEntry next with
      | some .directory => readAlong (t.put next .directory) next names
      | some e => return t.put next e
      | none => return t

/-- Read what lies on some paths into a tree. -/
def readPaths (t : Tree) : List Path → IO Tree
  | [] => return t
  | p :: ps => do readPaths (← readAlong t (t.startOf p) p.location) ps

/-- The bytes of a stream, after those that it gave before. -/
partial def readStream (stream : IO.FS.Stream) (before : ByteArray) : IO Bytes := do
  let block ← stream.read 65536
  if block.isEmpty then return before.toList
  else readStream stream (before ++ block)

def writeEntries : List (Location × Entry) → IO Unit
  | [] => return
  | (l, .directory) :: es => do
    IO.FS.createDirAll (absolutePath l)
    writeEntries es
  | (l, .file content) :: es => do
    IO.FS.writeBinFile (absolutePath l) ⟨content.toArray⟩
    writeEntries es

def conclude (before : Tree) (outcome : CommandLine.Outcome) : IO UInt32 := do
  (← IO.getStderr).putStr (shown outcome.stderr)
  (← IO.getStdout).putStr (shown outcome.stdout)
  writeEntries (before.changesFrom outcome.tree)
  match outcome.ending with
  | .exit code => return UInt32.ofNat code
  | .escaped e =>
    (← IO.getStderr).putStr (shown (e.message ++ "\n"))
    return 1

end PackageRollup.Program

open PackageRollup in
/-- Run the program on the words of a command line. -/
def main (args : List String) : IO UInt32 := do
  let argv := args.map Text.ofString
  let directory := Path.ofText (Text.ofString (← IO.currentDir).toString)
  let settled ← Program.readPaths (.ofDirectory directory.location) CommandLine.settingsPaths
  let tree ← Program.readPaths settled (CommandLine.pathsOf argv settled)
  let content ←
    if CommandLine.readsStandardInput argv then Program.readStream (← IO.getStdin) .empty
    else pure []
  Program.conclude tree (CommandLine.execute argv directory.text tree (.bytes content))
