import BundleWright.Declaration.Defaults
import BundleWright.Declaration.File
import BundleWright.FileTree
import BundleWright.Graph
import BundleWright.Settings
/-!
The module graph of a list of declarations: one node per module, target and image, with edges for
what the modules declare to depend on. Bundles get their edges later.
-/
namespace BundleWright

inductive WorkspaceError where
  | repeatedName (name : String)
  | unknownDefaults (bundle defaults : String)
  /-- Two targets give a module the same variant. -/
  | nodeTaken (key : NodeKey)
  /-- The files of a certificate would have no name. -/
  | namelessCertificate (path : Path)
  | undefinedModules (dependent : NodeKey) (names : List String)
  | unknownBundle (name : String)
  deriving DecidableEq, Repr

def WorkspaceError.message : WorkspaceError → String
  | .repeatedName name => "Module " ++ Text.quoted name ++ " declared more than once"
  | .unknownDefaults bundle defaults =>
    Text.quoted bundle ++ " names unknown defaults " ++ Text.quoted defaults
  | .nodeTaken key =>
    "Module " ++ Text.quoted key.name ++ " already defined for " ++ Text.quoted key.variant
  | .namelessCertificate path => FileError.shownPath path.text ++ " has an empty name"
  | .undefinedModules dependent names =>
    Text.quoted dependent.name ++ " (" ++ dependent.variant ++
      ") depends on undefined module(s): " ++ String.intercalate ", " names
  | .unknownBundle name => "Unknown bundle: " ++ Text.quoted name

def Node.buildPath (n : Node) (s : Settings) (file : Path) : Path :=
  s.outDir / n.name / n.variantId / file

def imagesFor (vendorAvailable : Option Bool) : List String :=
  if vendorAvailable = some true then [coreImage, vendorImage] else [coreImage]

/-- The name of a built file: the given one, or that of its source. -/
def builtName (filename : Option String) (src : String) : Path :=
  .ofString ((Bundle.given filename).getD (Path.ofString src).name)

def forVariants (s : Settings) (vendorAvailable : Option Bool) (f : Target → String → Node) :
    List Node :=
  s.targetList.flatMap fun t => (imagesFor vendorAvailable).map (f t)

namespace LibraryDecl

def node (d : LibraryDecl) (s : Settings) (t : Target) (image : String) : Node :=
  let n : Node := { name := d.name, target := t, deps := d.sharedLibs, image := image }
  { n with kind := .library {
      outputFile := n.buildPath s (.ofString ((Bundle.given d.stem).getD d.name ++ ".so"))
      relativeInstallPath := d.relativeInstallPath.getD ""
      isStubs := d.flavor == .llndk
      hasStubsVariants := d.stubs.any (· ≠ [])
      installable := d.installable.getD true } }

end LibraryDecl

namespace BinaryDecl

def node (d : BinaryDecl) (s : Settings) (t : Target) (image : String) : Node :=
  let n : Node := { name := d.name, target := t, deps := d.sharedLibs, image := image }
  { n with kind := .binary {
      outputFile := n.buildPath s (.ofString ((Bundle.given d.stem).getD d.name))
      symlinks := d.symlinks
      relativeInstallPath := d.relativeInstallPath.getD "" } }

end BinaryDecl

namespace ScriptDecl

def node (d : ScriptDecl) (s : Settings) (t : Target) : Node :=
  let n : Node := { name := d.name, target := t }
  { n with kind := .script {
      outputFile := n.buildPath s (builtName d.filename d.src)
      subDir := d.subDir.getD "" } }

end ScriptDecl

namespace PrebuiltDecl

def node (d : PrebuiltDecl) (s : Settings) (t : Target) : Node :=
  let n : Node := { name := d.name, target := t }
  { n with kind := .prebuilt {
      outputFile := n.buildPath s (builtName d.filename d.src)
      subDir := d.subDir.getD "" } }

end PrebuiltDecl

namespace JavaDecl

/-- A library is compiled to an archive if it says so, or if it is installable and says nothing. -/
def compiles (d : JavaDecl) : Bool := d.compileDex.getD (d.installable.getD true)

def node (d : JavaDecl) (s : Settings) : Node :=
  let n : Node := { name := d.name, target := s.commonTarget, deps := d.libs }
  { n with kind := .java {
      dexJar :=
        if d.compiles then some (n.buildPath s (.ofString ("dex/" ++ d.name ++ ".jar")))
        else none } }

end JavaDecl

def KeyDecl.node (d : KeyDecl) (s : Settings) (dir : Path) : Node where
  name := d.name
  target := s.commonTarget
  kind := .key {
    publicKeyFile := dir / d.publicKey
    privateKeyFile := dir / d.privateKey
    installable := d.installable.getD true }

namespace CertificateDecl

def pair? (d : CertificateDecl) (dir : Path) : Option Certificate := do
  let stem := dir / d.certificate
  let pem ← stem.withName? (stem.name ++ ".x509.pem")
  let key ← stem.withName? (stem.name ++ ".pk8")
  return ⟨pem, key⟩

def node (d : CertificateDecl) (s : Settings) (dir : Path) : Except WorkspaceError Node :=
  match d.pair? dir with
  | some c => .ok { name := d.name, target := s.commonTarget, kind := .certificate c }
  | none => .error (.namelessCertificate (dir / d.certificate))

end CertificateDecl

namespace Bundle

def resolved (b : Bundle) (known : List BundleDefaults) : Except WorkspaceError Bundle := do
  let chosen ← b.defaults.mapM fun name =>
    match known.find? (·.name = name) with
    | some d => .ok d
    | none => .error (.unknownDefaults b.name name)
  return b.withDefaults chosen

def module (b : Bundle) (s : Settings) (dir : Path) : BundleModule where
  name := b.name
  target := s.commonTarget
  node := { bundle := b, targets := s.targetList, sourceDir := dir }

end Bundle

def Declaration.defaultsAmong (ds : List Declaration) : List BundleDefaults :=
  ds.filterMap fun
    | .defaults d => some d
    | _ => none

def Declaration.nodes (known : List BundleDefaults) (s : Settings) (dir : Path) :
    Declaration → Except WorkspaceError (List BundleModule × List Node)
  | .library d => .ok ([], forVariants s d.vendorAvailable (d.node s))
  | .binary d => .ok ([], forVariants s d.vendorAvailable (d.node s))
  | .script d => .ok ([], s.targetList.map (d.node s))
  | .java d => .ok ([], [d.node s])
  | .prebuilt d => .ok ([], s.targetList.map (d.node s))
  | .key d => .ok ([], [d.node s dir])
  | .certificate d => (d.node s dir).map fun n => ([], [n])
  | .bundle d => (d.resolved known).map fun b =>
      ([b.module s dir], [(b.module s dir).toNode])
  | .defaults _ => .ok ([], [])

namespace ModuleGraph

def addAll (g : ModuleGraph) : List Node → Except WorkspaceError ModuleGraph
  | [] => .ok g
  | n :: rest =>
    match g.add? n with
    | some g => g.addAll rest
    | none => .error (.nodeTaken n.key)

/-- How a module selects what it depends on: its own target, and its own image if it is native. -/
def ownSelector (n : Node) : Selector :=
  match n.kind with
  | .java _ => [("arch", n.target.variantName)]
  | _ => [("arch", n.target.variantName), ("image", n.image)]

def linkAll (g : ModuleGraph) : List Node → Except WorkspaceError ModuleGraph
  | [] => .ok g
  | n :: rest =>
    match g.addDependencies n.key .moduleDep n.deps (ownSelector n) with
    | (g, []) => g.linkAll rest
    | (_, missing) => .error (.undefinedModules n.key missing)

end ModuleGraph

def firstRepeated? (names : List String) (met : List String := []) : Option String :=
  match names with
  | [] => none
  | n :: rest => if met.contains n then some n else firstRepeated? rest (n :: met)

structure Workspace where
  graph : ModuleGraph
  bundles : List BundleModule
  targets : List Target

namespace Workspace

def register (known : List BundleDefaults) (s : Settings) (dir : Path) (w : Workspace) :
    List Declaration → Except WorkspaceError Workspace
  | [] => .ok w
  | d :: rest => do
    let (bundles, nodes) ← d.nodes known s dir
    let graph ← w.graph.addAll nodes
    register known s dir { w with graph, bundles := w.bundles ++ bundles } rest

/-- The graph of declarations whose relative paths start in `dir`. -/
def ofDeclarations (ds : List Declaration) (s : Settings) (dir : Path) :
    Except WorkspaceError Workspace := do
  if let some name := firstRepeated? (ds.map Declaration.name) then
    throw (.repeatedName name)
  let known := Declaration.defaultsAmong ds
  let w ← register known s dir { graph := {}, bundles := [], targets := s.targetList } ds
  let graph ← w.graph.linkAll w.graph.nodes
  return { w with graph }

def modify (w : Workspace) (name : String) (f : Node → Node) : Workspace :=
  { w with
    graph := w.graph.modify name f
    bundles := w.bundles.map fun b => if b.id.name = name then b.withNode (f b.toNode) else b }

def bundle? (w : Workspace) (name : String) : Option BundleModule :=
  w.bundles.find? (·.name = name)

def bundle (w : Workspace) (name : String) : Except WorkspaceError BundleModule :=
  match w.bundle? name with
  | some b => .ok b
  | none => .error (.unknownBundle name)

inductive LoadError where
  | refused (e : FileError)
  | file (fault : Declaration.FileFault)
  | workspace (e : WorkspaceError)

def loadDeclarations (tree : FileTree) (path : Path) : Except LoadError (List Declaration) :=
  match (FileTree.readText path).run tree with
  | (.error e, _) => .error (.refused e)
  | (.ok text, _) => (Declaration.ofText path text).mapError .file

/-- The workspace of a file; its relative paths start beside it. -/
def load (tree : FileTree) (path : Path) (s : Settings) : Except LoadError Workspace := do
  let ds ← loadDeclarations tree path
  (ofDeclarations ds s path.parent).mapError .workspace

end Workspace

end BundleWright
