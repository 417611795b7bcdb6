import BundleWright.Action
import BundleWright.FileTree
/-!
Carrying out actions one after another on a file tree. What the tools do is given beforehand, run by
run; everything else follows from the actions. A log is kept in the tree while they run.
-/
namespace BundleWright

inductive ToolEnd where
  | exits (code : Int)
  | timesOut
  | notFound
  deriving DecidableEq, Repr

structure ToolRun where
  print : String := ""
  touch : List String := []
  /-- Whether it also writes the file that its last argument names. -/
  touchLast : Bool := false
  ending : ToolEnd := .exits 0
  deriving DecidableEq, Repr

structure ToolCall where
  argv : List String
  cwd : Option Path
  timeout : Option Int
  env : Environment
  deriving DecidableEq, Repr

namespace ToolCall

def hasIllegalVariable (call : ToolCall) : Bool := call.env.any (·.1.toList.contains '=')

def hasNull (call : ToolCall) : Bool :=
  call.argv.any (·.toList.contains Path.null) ||
    call.env.any (fun v => v.1.toList.contains Path.null || v.2.toList.contains Path.null) ||
    call.cwd.any Path.hasNull

end ToolCall

inductive MessageLevel where
  | info
  | error
  deriving DecidableEq, Repr

def MessageLevel.word : MessageLevel → String
  | .info => "INFO"
  | .error => "ERROR"

structure Message where
  level : MessageLevel
  text : String
  deriving DecidableEq, Repr

/-- A log that is being written: its file and how many bytes have gone into it. -/
structure OpenLog where
  place : Location
  size : Nat
  deriving DecidableEq, Repr

structure Machine where
  tree : FileTree
  /-- What the next runs of tools do; one that is not listed succeeds and does nothing. -/
  tools : List ToolRun := []
  calls : List ToolCall := []
  messages : List Message := []
  /-- The log of the present run, as long as its file exists. -/
  log : Option OpenLog := none

inductive ActionFailure where
  | prepare (dir : Path) (cause : FileError)
  | place (source dest : Path) (cause : FileError)
  | link (target : String) (link : Path) (cause : FileError)
  | write (dest : Path) (cause : FileError)
  | start (description : String) (cause : FileError)
  | timeout (description : String) (limit : Option Int)
  | exit (description : String) (code : Int)
  deriving DecidableEq, Repr

def limitText (limit : Option Int) : String := (limit.map toString).getD "None"

namespace ActionFailure

def message : ActionFailure → String
  | .prepare dir cause => s!"Failed to prepare {dir.text}: {cause.message}"
  | .place source dest cause =>
    s!"Failed to stage {source.text} -> {dest.text}: {cause.message}"
  | .link target path cause => s!"Failed to link {path.text} -> {target}: {cause.message}"
  | .write dest cause => s!"Failed to write {dest.text}: {cause.message}"
  | .start description cause => s!"Failed to execute {description}: {cause.message}"
  | .timeout description limit => s!"{description} timed out after {limitText limit} seconds"
  | .exit description code => s!"{description} failed with exit code {code}"

def code : ActionFailure → String
  | .prepare _ _ | .place _ _ _ | .link _ _ _ | .write _ _ => "stage_error"
  | .start _ _ => "execution_error"
  | .timeout _ _ => "build_timeout"
  | .exit _ _ => "tool_failed"

/-- The exit code of the tool; one that is stopped has minus one, one that never ran has none. -/
def exitCode? : ActionFailure → Option Int
  | .exit _ code => some code
  | .timeout _ _ => some (-1)
  | _ => none

end ActionFailure

inductive RunError where
  | failed (f : ActionFailure)
  /-- The log, or a directory for the outputs of a tool, cannot be made, or something cannot be
  named to the system. -/
  | refused (e : FileError)
  /-- A variable for a tool is named with the sign that ends names. -/
  | illegalVariable
  | incomplete
  deriving DecidableEq, Repr

def RunError.illegalVariableText : String := "illegal environment variable name"

/-- A step of a run; what has happened stays when it fails. -/
abbrev Run (α : Type) := ExceptT RunError (StateM Machine) α

namespace Run

def say (level : MessageLevel) (text : String) : Run Unit :=
  modify fun m => { m with messages := m.messages ++ [⟨level, text⟩] }

def fail {α : Type} (f : ActionFailure) : Run α := throw (.failed f)

/-- An operation on the tree, its refusal turned into an error of the run. A path that the system
cannot name is no refusal and stays what it is. -/
def onTree {α : Type} (wrap : FileError → RunError) (op : FileTree.Op α) : Run α := do
  let m ← get
  let (result, tree) := op.run.run m.tree
  set { m with tree }
  match result with
  | .ok a => return a
  | .error .nullInPath => throw (.refused .nullInPath)
  | .error e => throw (wrap e)

def note (text : String) : Run Unit :=
  modify fun m =>
    match m.log with
    | none => m
    | some l => { m with
        tree := m.tree.writeAt l.place l.size text
        log := some { l with size := l.size + text.utf8ByteSize } }

/-- Lets go of the log when its file has been removed. -/
def releaseLog : Run Unit :=
  modify fun m => { m with log := m.log.filter fun l => (m.tree.get? l.place).isSome }

def firstOf (paths : List Path) : Run Path :=
  match paths with
  | [] => throw .incomplete
  | p :: _ => return p

def placeFile (source dest : Path) : Run Unit :=
  onTree (.failed ∘ .place source dest) do
    FileTree.makeDirs true dest.parent
    FileTree.copyFile source dest

def prepare (dir : Path) : Run Unit := do
  onTree (.failed ∘ .prepare dir) do
    if ← FileTree.ask (·.exists? dir) then FileTree.removeTree dir
    FileTree.makeDirs false dir
  releaseLog

def stage (dir : Path) (copies : List FileCopy) (links : List FileLink) : Run Unit := do
  prepare dir
  copies.forM fun c => placeFile c.source c.dest
  links.forM fun l => onTree (.failed ∘ .link l.target l.link) (FileTree.makeLink l.target l.link)

def writeFile (dest : Path) (content : String) : Run Unit :=
  onTree (.failed ∘ .write dest) do
    FileTree.makeDirs true dest.parent
    FileTree.writeText dest content

/-- Puts a call to the system, which can turn it down before it looks for the tool. -/
def handOver (call : ToolCall) : Run Unit :=
  if call.hasIllegalVariable then throw .illegalVariable
  else if call.hasNull then throw (.refused .nullInPath)
  else return ()

def nextTool (call : ToolCall) : Run ToolRun :=
  modifyGet fun m =>
    (m.tools.head?.getD {}, { m with tools := m.tools.tail, calls := m.calls ++ [call] })

def touchedText : String := "built\n"

def touch (path : Path) : Run Unit :=
  onTree .refused do
    FileTree.makeDirs true path.parent
    FileTree.writeText path touchedText

def failStart {α : Type} (description : String) (cause : FileError) : Run α := do
  say .error (ActionFailure.start description cause).message
  fail (.start description cause)

def touched (t : ToolRun) (argv : List String) : Run (List Path) :=
  match t.touchLast, argv.getLast? with
  | false, _ => return t.touch.map .ofString
  | true, some last => return (t.touch ++ [last]).map .ofString
  | true, none => throw .incomplete

/-- One run of a tool; its exit code. A file that it cannot write is a failure to run it. -/
def runTool (description : String) (call : ToolCall) : Run Int := do
  handOver call
  let t ← nextTool call
  note t.print
  let paths ← touched t call.argv
  tryCatch (paths.forM touch) fun e =>
    match e with
    | .refused .nullInPath => throw e
    | .refused cause => failStart description cause
    | e => throw e
  match t.ending with
  | .exits code => return code
  | .timesOut =>
    note s!"\n# TIMEOUT after {limitText call.timeout} seconds\n"
    say .error (ActionFailure.timeout description call.timeout).message
    fail (.timeout description call.timeout)
  | .notFound =>
    match call.argv with
    | [] => throw .incomplete
    | tool :: _ => failStart description (.refused .noEntry tool)

end Run

structure RunTimes where
  started : String := "1970-01-01T00:00:00.000000+00:00"
  finished : String := "1970-01-01T00:00:00.000000+00:00"
  /-- In seconds, to one decimal place. -/
  duration : String := "0.0"

structure RunOptions where
  log : Path
  cwd : Option Path := none
  /-- Seconds a tool may run. -/
  timeout : Option Int := none
  /-- Whether actions are only told. -/
  dryRun : Bool := false
  times : RunTimes := {}

structure RunReport where
  bundle : String
  log : Path
  actionsRun : Nat
  outputs : List Path
  deriving DecidableEq, Repr

namespace Run

/-- Runs a tool; any exit code but zero is a failure. -/
def command (o : RunOptions) (a : Action) (argv : List String) (env : Environment) :
    Run Unit := do
  let line := commandLine argv env
  say .info s!"Executing {a.description}: {line}"
  note s!"# Command: {line}\n"
  a.outputs.forM fun output => onTree .refused (FileTree.makeDirs true output.parent)
  let code ← runTool a.description ⟨argv, o.cwd, o.timeout, env⟩
  if code ≠ 0 then
    let f := ActionFailure.exit a.description code
    say .error s!"{f.message}. See log: {o.log.text}"
    note s!"\n# Exit code: {code}\n"
    fail f

def action (o : RunOptions) (a : Action) : Run Unit := do
  match a.work with
  | .stage copies links => stage (← firstOf a.outputs) copies links
  | .write content => writeFile (← firstOf a.outputs) content
  | .copy => placeFile (← firstOf a.inputs) (← firstOf a.outputs)
  | .command argv env => command o a argv env

def tell (a : Action) : Run Unit := do
  match a.commandLine? with
  | some line => say .info s!"[dry-run] {line}"
  | none =>
    let output ← firstOf a.outputs
    say .info s!"[dry-run] {a.description} -> {output.text}"

def openLog (o : RunOptions) (bundle : String) : Run Unit := do
  onTree .refused do
    FileTree.makeDirs true o.log.parent
    FileTree.writeText o.log ""
  modify fun m => { m with log := (m.tree.resolve .target o.log).toOption.map fun l => ⟨l, 0⟩ }
  note s!"# Bundle: {bundle}\n# Started: {o.times.started}\n"
  note ("# " ++ String.ofList (List.replicate 70 '=') ++ "\n\n")

def actions (o : RunOptions) (bundle : String) (as : List Action) : Run RunReport := do
  if o.dryRun then
    as.forM tell
    return ⟨bundle, o.log, as.length, []⟩
  else
    openLog o bundle
    as.forM (action o)
    note s!"\n# Finished: {o.times.finished}\n# Duration: {o.times.duration}s\n"
    say .info s!"Built {bundle}: {as.length} actions"
    return ⟨bundle, o.log, as.length, as.flatMap (·.outputs)⟩

end Run

end BundleWright
