import BundleWright.Arguments
import BundleWright.Report
import BundleWright.Settings.Printer
import BundleWright.Settings.Reader
import BundleWright.Text.Markup
/-!
The command line: it shows the settings, plans bundles, lists what they install, and builds them.
Everything it does is a function of the arguments, the environment and the file tree.
-/
namespace BundleWright

namespace Console

/-- What ends a command without an answer of its own. -/
inductive Crash where
  | settings (failure : Settings.Failure)
  | workspace (e : WorkspaceError)
  | file (fault : Declaration.FileFault)
  | refused (e : FileError)
  | noWorkers
  | illegalVariable
  /-- An action lacks a file or an argument that it needs. -/
  | incomplete
  | markup (fault : Text.Markup.Fault)

inductive Stop where
  | exit (code : Nat)
  | crash (c : Crash)

structure State where
  machine : Machine
  shown : String := ""
  complaints : String := ""

abbrev Command (α : Type) := ExceptT Stop (StateM State) α

def echo (text : String) : Command Unit :=
  modify fun s => { s with shown := s.shown ++ text ++ "\n" }

def line (text : String) : Command Unit :=
  match Text.Markup.render text with
  | .ok t => echo t
  | .error fault => throw (.crash (.markup fault))

def complainOf (text : String) : Command Unit :=
  match Text.Markup.render text with
  | .ok t => modify fun s => { s with complaints := s.complaints ++ t ++ "\n" }
  | .error fault => throw (.crash (.markup fault))

def complain {α : Type} (text : String) : Command α := do
  complainOf text
  throw (.exit 1)

def usage : String :=
  "Usage: apexgen [--version] COMMAND\n" ++
  "  config [--json]\n" ++
  "  plan FILE [--bundle NAME]... [--json]\n" ++
  "  deps FILE [--json]\n" ++
  "  build FILE [--bundle NAME]... [--dry-run]\n"

def misuse {α : Type} : Command α := do
  modify fun s => { s with complaints := s.complaints ++ usage }
  throw (.exit 2)

def red (text : String) : String := "[red]" ++ text ++ "[/red]"
def green (text : String) : String := "[green]" ++ text ++ "[/green]"
def yellow (text : String) : String := "[yellow]" ++ text ++ "[/yellow]"
def bold (text : String) : String := "[bold]" ++ text ++ "[/bold]"

end Console

open Console

def Settings.display (s : Settings) : List String :=
  let orNone (text : String) : String := if text = "" then "(none)" else text
  let list (archs : List Arch) : String := String.intercalate ", " (archs.map Arch.word)
  [bold "Effective Configuration:", "",
    bold "Paths:",
    "  Source root:         " ++ s.sourceRoot.text,
    "  Output directory:    " ++ s.outDir.text,
    "  Install root:        " ++ s.installRoot.text,
    "  Sepolicy directory:  " ++ s.sepolicyDir,
    "  Certificate dir:     " ++ s.defaultCertDir, "",
    bold "Targets:",
    "  Target OS:           " ++ s.targetOs.word,
    "  Architectures:       " ++ list s.targets,
    "  Native bridge:       " ++ orNone (list s.nativeBridgeTargets), "",
    bold "Build:",
    "  Debuggable:          " ++ truthText s.debuggable,
    "  Flatten bundles:     " ++ truthText s.flattenApex,
    "  Unbundled build:     " ++ truthText s.unbundledBuild,
    "  VNDK version:        " ++ orNone s.vndkVersion,
    "  Default certificate: " ++ s.defaultCertificate, "",
    bold "Operational:",
    "  Log level:           " ++ s.logLevel.word,
    "  Max bundles:         " ++ toString s.maxConcurrentBundles,
    "  Action timeout:      " ++ toString s.actionTimeout]

def Outcome.display (o : Outcome) : List String :=
  match o.result with
  | .error e => [red ("✗ " ++ o.bundle.name ++ ": " ++ e.message)]
  | .ok plan =>
    [(if o.ok then green "✓" else yellow "!") ++ " " ++ bold o.bundle.name,
      "    Files: " ++ toString plan.files.length] ++
    plan.files.map (fun f => "      " ++ f.pathInBundle ++ "  (" ++ f.moduleName ++ ")") ++
    plan.outputs.map (fun p => "    Output (" ++ p.1.word ++ "): " ++ p.2.text) ++
    ["    Actions: " ++ toString plan.actions.length] ++
    o.errors.map fun e => "    " ++ red e.text

namespace CommandLine

def version : String := "0.1.0"

inductive Verb where
  | config
  | plan
  | deps
  | build
  deriving DecidableEq, Repr

namespace Verb

def all : List Verb := [.config, .plan, .deps, .build]

def word : Verb → String
  | .config => "config"
  | .plan => "plan"
  | .deps => "deps"
  | .build => "build"

def bundleFlag : Arguments.Flag := { long := "bundle", short := some 'b', takesValue := true }

def flags : Verb → List Arguments.Flag
  | .config => [{ long := "json" }]
  | .plan => [bundleFlag, { long := "json" }]
  | .deps => [{ long := "json" }]
  | .build => [bundleFlag, { long := "dry-run" }]

def takesFile : Verb → Bool
  | .config => false
  | _ => true

end Verb

def versionFlag : Arguments.Flag := { long := "version", short := some 'V' }

def variablesFile : Path := .ofString ".env"

def readSettings (base : Settings) (environment : Settings.Variables) : Command Settings := do
  let tree := (← get).machine.tree
  let dotenv := match tree.status? variablesFile with
    | some (.file text) => text
    | _ => ""
  match Settings.gather base [] environment dotenv with
  | .ok s => return s
  | .error e => throw (.crash (.settings e))

def fileOf (word : String) : Command Path := do
  let path := Path.ofString word
  if path.hasNull then throw (.crash (.refused .nullInPath))
  match (← get).machine.tree.status? path with
  | some (.file _) => return path
  | _ => misuse

def load (path : Path) (s : Settings) : Command Workspace := do
  let told (message : String) : String :=
    red ("Error loading " ++ path.text ++ ": " ++ message)
  match Workspace.load (← get).machine.tree path s with
  | .ok w => return w
  | .error (.refused e) => throw (.crash (.refused e))
  | .error (.file (.flawed flaws)) => do
    complainOf (red ("Invalid declarations in " ++ path.text ++ ":"))
    complain (Flaw.report flaws)
  | .error (.file fault) =>
    if fault.isTold then complain (told fault.message) else throw (.crash (.file fault))
  | .error (.workspace (.nodeTaken key)) => throw (.crash (.workspace (.nodeTaken key)))
  | .error (.workspace e) => complain (told e.message)

def assemble (path : Path) (s : Settings) (names : List String) :
    Command (Workspace × Assembly) := do
  let w ← load path s
  match w.assemble s (← get).machine.tree names with
  | (w, .ok a) => return (w, a)
  | (_, .error (.workspace e)) => complain (red e.message)
  | (_, .error .noWorkers) => throw (.crash .noWorkers)
  | (_, .error (.refused e)) => throw (.crash (.refused e))

def finish (a : Assembly) : Command Unit := do
  if !a.success then throw (.exit 1)

def config (s : Settings) (g : Arguments.Given) : Command Unit := do
  if g.has "json" then echo s.report else s.display.forM line

def plan (path : Path) (s : Settings) (g : Arguments.Given) : Command Unit := do
  let (_, a) ← assemble path s (g.values "bundle")
  if g.has "json" then echo (Json.pretty .ascii (.arr (a.outcomes.map Outcome.summary)))
  else a.outcomes.forM fun o => o.display.forM line
  finish a

def deps (path : Path) (s : Settings) (g : Arguments.Given) : Command Unit := do
  let (w, a) ← assemble path s []
  if g.has "json" then
    let fields := w.bundles.foldl (fun (fields : Fields) b =>
      fields.put b.name (.ofStrings (a.table.dependenciesOf b.name))) []
    echo (Json.pretty .ascii (.obj fields))
  else
    w.bundles.forM fun b => do
      let names := a.table.dependenciesOf b.name
      line s!"{bold b.name} ({names.length} dependencies)"
      names.forM fun name => line ("  " ++ name)
  finish a

def run {α : Type} (r : Run α) : Command α := do
  let s ← get
  let (result, machine) := r.run.run s.machine
  set { s with machine }
  match result with
  | .ok a => return a
  | .error (.failed f) => do
    line (red s!"Build failed ({f.code}): {f.message}")
    throw (.exit 1)
  | .error (.refused e) => throw (.crash (.refused e))
  | .error .illegalVariable => throw (.crash .illegalVariable)
  | .error .incomplete => throw (.crash .incomplete)

def build (path : Path) (s : Settings) (g : Arguments.Given) : Command Unit := do
  let (_, a) ← assemble path s (g.values "bundle")
  (a.outcomes.filter (!·.ok)).forM fun o => o.display.forM line
  let dryRun := g.has "dry-run"
  let reports ← run (Run.plans s dryRun a.plans)
  let label := if dryRun then "Planned" else "Built"
  reports.forM fun r =>
    line (green s!"✓ {label} {r.bundle}" ++ s!" ({r.actionsRun} actions)")
  finish a

def perform (s : Settings) (v : Verb) (args : List String) : Command Unit := do
  match Arguments.read? v.flags true args with
  | none => misuse
  | some g =>
    match v.takesFile, g.words with
    | false, [] => config s g
    | true, word :: more => do
      let path ← fileOf word
      match v, more with
      | .plan, [] => plan path s g
      | .deps, [] => deps path s g
      | .build, [] => build path s g
      | _, _ => misuse
    | _, _ => misuse

/-- What is left of some arguments once the flag that asks for the version is taken out; none when
it was there and has been answered. -/
def afterVersion (args : List String) : Command (Option (List String)) := do
  match Arguments.read? [versionFlag] false args with
  | none => misuse
  | some g =>
    if g.has versionFlag.long then
      line s!"apex-bundler version {version}"
      return none
    else return some g.words

/-- The whole command line. The settings are read once the command is known, before its own
arguments are looked at. Where a command should stand and none does, the flag may stand too. -/
def dispatch (base : Settings) (environment : Settings.Variables) (args : List String) :
    Command Unit := do
  match ← afterVersion args with
  | none => return
  | some [] => misuse
  | some (word :: rest) =>
    match Verb.all.find? (·.word = word) with
    | some v => perform (← readSettings base environment) v rest
    | none =>
      if (← afterVersion (word :: rest)).isSome then misuse

structure Ending where
  exitCode : Nat
  crash : Option Crash
  shown : String
  complaints : String
  machine : Machine

/-- Runs a command line; a crash ends with exit code one. -/
def execute (base : Settings) (environment : Settings.Variables) (args : List String)
    (machine : Machine) : Ending :=
  match (dispatch base environment args).run.run { machine } with
  | (.ok (), s) => ⟨0, none, s.shown, s.complaints, s.machine⟩
  | (.error (.exit code), s) => ⟨code, none, s.shown, s.complaints, s.machine⟩
  | (.error (.crash c), s) => ⟨1, some c, s.shown, s.complaints, s.machine⟩

end CommandLine

end BundleWright
