import BundleWright.Execution
import BundleWright.InstallTable
import BundleWright.Plan
import BundleWright.Workspace
/-!
Assembling bundles: edges and variants are made for every bundle, since variants are shared; then
the chosen bundles are planned one by one. What is fatal to one bundle leaves the others alone.
-/
namespace BundleWright

/-- What came of one bundle: a plan or the error that ended the work on it. -/
structure Outcome where
  bundle : BundleModule
  result : Except BundleError Plan
  /-- Reported problems, those of the edges first. -/
  errors : List PropertyError := []

namespace Outcome

def plan? (o : Outcome) : Option Plan := o.result.toOption

def fatal? (o : Outcome) : Option BundleError :=
  match o.result with
  | .error e => some e
  | .ok _ => none

def ok (o : Outcome) : Bool := o.fatal?.isNone && o.errors.isEmpty

end Outcome

abbrev EdgeReports := List (BundleModule × Except BundleError (List PropertyError))

namespace EdgeReports

def reported (r : EdgeReports) : List (String × List PropertyError) :=
  r.filterMap fun (b, result) => result.toOption.map (b.name, ·)

def fatal (r : EdgeReports) : List (String × BundleError) :=
  r.filterMap fun (b, result) =>
    match result with
    | .error e => some (b.name, e)
    | .ok _ => none

end EdgeReports

namespace ModuleGraph

def addAllBundleDependencies (g : ModuleGraph) (s : Settings) :
    List BundleModule → ModuleGraph × EdgeReports
  | [] => (g, [])
  | b :: rest =>
    let (g, result) := g.addBundleDependencies b s
    let (g, more) := g.addAllBundleDependencies s rest
    (g, (b, result) :: more)

def planOf (g : ModuleGraph) (b : BundleModule) (s : Settings) (tree : FileTree) :
    Except PlanError Plan := do
  let _ ← b.selection.mapError .bundle
  let collection ← (Collection.ofBundle g b s).mapError .bundle
  b.plan collection s tree

def generate (g : ModuleGraph) (b : BundleModule) (s : Settings) (tree : FileTree) :
    Except FileError Outcome :=
  match g.planOf b s tree with
  | .ok plan => .ok { bundle := b, result := .ok plan, errors := plan.errors }
  | .error (.bundle e) => .ok { bundle := b, result := .error e }
  | .error (.refused e) => .error e

end ModuleGraph

structure Assembly where
  /-- In the order in which the bundles were chosen. -/
  outcomes : List Outcome
  table : InstallTable
  variants : List Variant

namespace Assembly

def success (a : Assembly) : Bool := a.outcomes.all Outcome.ok

def outcome? (a : Assembly) (name : String) : Option Outcome :=
  a.outcomes.find? (·.bundle.name = name)

def plans (a : Assembly) : List (BundleModule × Plan) :=
  a.outcomes.filterMap fun o => if o.ok then o.plan?.map (o.bundle, ·) else none

end Assembly

inductive AssemblyError where
  | workspace (e : WorkspaceError)
  | noWorkers
  | refused (e : FileError)
  deriving DecidableEq, Repr

def AssemblyError.message : AssemblyError → String
  | .workspace e => e.message
  | .noWorkers => "max_workers must be greater than 0"
  | .refused e => e.message

namespace Workspace

/-- The chosen bundles; all of them when no name is given. -/
def select (w : Workspace) (names : List String) : Except WorkspaceError (List BundleModule) :=
  if names.isEmpty then .ok w.bundles else names.mapM w.bundle

/-- The outcome of a chosen bundle. What its edges reported counts once per time it is chosen. -/
def outcome (g : ModuleGraph) (s : Settings) (tree : FileTree) (reports : EdgeReports)
    (selected : List BundleModule) (b : BundleModule) : Except FileError Outcome :=
  match reports.fatal.lookup b.name with
  | some e => .ok { bundle := b, result := .error e }
  | none => (g.generate b s tree).map fun o =>
    let reported := (reports.reported.lookup b.name).getD []
    let times := selected.countP (·.name = b.name)
    { o with errors := (List.replicate times reported).flatten ++ o.errors }

/-- The outcomes of the chosen bundles; the first refusal ends the work on all of them. -/
def outcomes (g : ModuleGraph) (s : Settings) (tree : FileTree) (reports : EdgeReports)
    (selected : List BundleModule) : Except AssemblyError (List Outcome) :=
  if s.maxConcurrentBundles ≤ 0 then .error .noWorkers
  else (selected.mapM (outcome g s tree reports selected)).mapError .refused

/-- Assembles the bundles of the given names. The graph keeps the edges and variants that are made
on the way, unless some name is unknown. -/
def assemble (w : Workspace) (s : Settings) (tree : FileTree) (names : List String) :
    Workspace × Except AssemblyError Assembly :=
  match w.select names with
  | .error e => (w, .error (.workspace e))
  | .ok selected =>
    let (graph, reports) := w.graph.addAllBundleDependencies s w.bundles
    let (graph, table, variants) := graph.propagate w.bundles {}
    ({ w with graph },
      (outcomes graph s tree reports selected).map ({ outcomes := ·, table, variants }))

end Workspace

def BundleModule.runOptions (b : BundleModule) (s : Settings) (dryRun : Bool) : RunOptions where
  log := b.outDir s / "build.log"
  cwd := some s.sourceRoot
  timeout := some s.actionTimeout
  dryRun := dryRun

/-- Runs plans one after another; the first failure ends them all. -/
def Run.plans (s : Settings) (dryRun : Bool) (plans : List (BundleModule × Plan)) :
    Run (List RunReport) :=
  plans.mapM fun (b, p) => Run.actions (b.runOptions s dryRun) p.bundle p.actions

end BundleWright
