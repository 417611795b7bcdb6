import BundleWright.CommandLine
/-!
The program. It reads the directory it is started in, runs the command line on that picture of it,
and writes back what has changed. It starts no tools itself, so a build ends at its first command;
links are left to the tools as well.
-/
open BundleWright

def readingDepth : Nat := 64

def readEntry :
    (depth : Nat) → (parent : Location) → IO.FS.DirEntry → IO (List (Location × Entry))
  | 0, _, _ => return []
  | depth + 1, parent, e => do
    let place := parent ++ [e.fileName]
    if ← e.path.isDir then
      let entries ← e.path.readDir
      let below ← entries.toList.mapM (readEntry depth place)
      return (place, .dir) :: below.flatten
    else
      try
        return [(place, .file (← IO.FS.readFile e.path))]
      catch _ => return []

def readTree : IO FileTree := do
  let dir ← IO.currentDir
  let place := (Path.ofString dir.toString).parts
  let above := (List.range place.length).map fun n => (place.take (n + 1), Entry.dir)
  let entries ← dir.readDir
  let below ← entries.toList.mapM (readEntry readingDepth place)
  return { entries := above ++ below.flatten, workDir := place }

def placeText (l : Location) : String := "/" ++ String.intercalate "/" l

def writeTree (before after : FileTree) : IO Unit := do
  for (l, e) in before.entries do
    if (after.get? l).isNone then
      try
        match e with
        | .dir => IO.FS.removeDirAll (placeText l)
        | _ => IO.FS.removeFile (placeText l)
      catch _ => pure ()
  for (l, e) in after.entries do
    if before.get? l != some e then
      match e with
      | .dir => IO.FS.createDirAll (placeText l)
      | .file text =>
        IO.FS.createDirAll (placeText l.dropLast)
        IO.FS.writeFile (placeText l) text
      | .link _ => pure ()

def readVariables : IO Settings.Variables := do
  let found ← Settings.names.mapM fun n => do
    let name := (Settings.variableStem ++ n.1).toUpper
    return (← IO.getEnv name).map (name, ·)
  return found.filterMap id

def crashText : Console.Crash → String
  | .settings (.unreadable setting source) => Settings.Failure.unreadableMessage setting source
  | .settings (.flawed flaws) =>
    String.intercalate "\n" (flaws.map fun f => f.location ++ ": " ++ f.fault.code)
  | .workspace e => e.message
  | .file fault => fault.message
  | .refused e => e.message
  | .noWorkers => AssemblyError.noWorkers.message
  | .illegalVariable => RunError.illegalVariableText
  | .incomplete => "an action lacks a file that it needs"
  | .markup .wrongTag => "a line closes a style that is not open"
  | .markup .unreadableColor => "a line names a color that is none"

def main (args : List String) : IO UInt32 := do
  let tree ← readTree
  let dir := Path.ofString (placeText tree.workDir)
  let machine : Machine := { tree, tools := [{ ending := .notFound }] }
  let ending := CommandLine.execute (Settings.within dir) (← readVariables) args machine
  IO.print ending.shown
  IO.eprint ending.complaints
  if let some c := ending.crash then
    IO.eprintln (crashText c)
  writeTree tree ending.machine.tree
  return ending.exitCode.toUInt32
