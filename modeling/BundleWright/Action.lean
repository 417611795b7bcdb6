import BundleWright.PackagedFile
import BundleWright.Text.ShellWord
/-!
Build actions: what is done, on which files, and with what result. Actions are data here and are
carried out elsewhere.
-/
namespace BundleWright

structure FileCopy where
  source : Path
  dest : Path
  deriving DecidableEq, Repr

/-- A link to be made; its target is the name of a file beside it. -/
structure FileLink where
  target : String
  link : Path
  deriving DecidableEq, Repr

/-- Variables for a tool beside those it inherits, each once. -/
abbrev Environment := List (String × String)

inductive Work where
  /-- Makes a directory anew and fills it. -/
  | stage (copies : List FileCopy) (links : List FileLink)
  | write (content : String)
  | command (argv : List String) (env : Environment)
  | copy
  deriving DecidableEq, Repr

def Work.word : Work → String
  | .stage _ _ => "stage"
  | .write _ => "write"
  | .command _ _ => "command"
  | .copy => "copy"

structure Action where
  description : String
  /-- What the action makes: files, or the directory it stages. -/
  outputs : List Path
  inputs : List Path := []
  work : Work
  install : Bool := false
  deriving DecidableEq, Repr

def assignment (v : String × String) : String := v.1 ++ "=" ++ Text.shellWord v.2

/-- A tool run as a shell command: variables in the order of their names, then the arguments. -/
def commandLine (argv : List String) (env : Environment) : String :=
  let assigned := env.mergeSort (·.1 ≤ ·.1)
  String.intercalate " "
    (assigned.map assignment ++ [String.intercalate " " (argv.map Text.shellWord)])

def Action.commandLine? (a : Action) : Option String :=
  match a.work with
  | .command argv env => some (commandLine argv env)
  | _ => none

def PackagedFile.destination (f : PackagedFile) (root : Path) : Path :=
  root / f.installDir / f.builtFile.name

def PackagedFile.links (f : PackagedFile) (root : Path) : List FileLink :=
  let dest := f.destination root
  f.symlinks.map fun (s : String) => ⟨dest.name, dest.parent / s⟩

def Action.staging (files : List PackagedFile) (dir : Path) : Action where
  description := "stage " ++ dir.name
  outputs := [dir]
  inputs := files.map (·.builtFile)
  work := .stage (files.map fun f => ⟨f.builtFile, f.destination dir⟩)
    (files.flatMap (·.links dir))

end BundleWright
