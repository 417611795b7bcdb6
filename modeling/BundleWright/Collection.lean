import BundleWright.Dependencies
import BundleWright.Graph.Walk
/-!
The files of a bundle. A walk from the bundle classifies every edge: a direct one by its tag and the
kind of its child, an indirect one brings in native libraries that may be installed and have no
stubs. What does not fit is reported and the walk goes on.
-/
namespace BundleWright

structure Findings where
  files : List PackagedFile := []
  errors : List PropertyError := []
  keyFile : Option Path := none
  publicKeyFile : Option Path := none
  certificate : Option Certificate := none

namespace Findings

def report (s : Findings) (bundle : BundleModule) (p : Problem) : Findings :=
  { s with errors := s.errors ++ [⟨bundle.name, p⟩] }

/-- Adds a file of a node, or reports why it cannot be placed. -/
def add (s : Findings) (bundle : BundleModule) (tag : Tag) (n : Node) (builtFile : Path)
    (installDir : String) (fileClass : FileClass) (symlinks : List String) : Bool × Findings :=
  match PackagedFile.make builtFile n.name installDir fileClass symlinks (some n.key) with
  | .ok f => (true, { s with files := s.files ++ [f] })
  | .error fault => (false, s.report bundle (.misplaced tag n.name fault))

def addLibrary (s : Findings) (bundle : BundleModule) (n : Node) (l : NativeLibrary) :
    Bool × Findings :=
  let setSystemApart := !bundle.properties.ignoreSystemLibrarySpecialCase.getD false
  s.add bundle .sharedLib n l.outputFile
    (InstallDir.library n.name n.target l.relativeInstallPath setSystemApart) .nativeSharedLib []

/-- What an edge out of the bundle brings, and whether its child is entered. -/
def direct (settings : Settings) (bundle : BundleModule) (s : Findings) (tag : Tag) (n : Node) :
    Bool × Findings :=
  match tag, n.kind with
  | .sharedLib, .library l => s.addLibrary bundle n l
  | .executable, .binary b =>
    -- there is one directory of executables, so translated ones are dropped
    if n.target.native then
      s.add bundle .executable n b.outputFile InstallDir.binary .nativeExecutable b.symlinks
    else (true, s)
  | .executable, .script c =>
    (false, (s.add bundle .executable n c.outputFile (InstallDir.script c.subDir) .shBinary []).2)
  | .javaLib, .java j =>
    match j.dexJar with
    | none => (true, s.report bundle (.notCompiled n.name))
    | some jar => (true, (s.add bundle .javaLib n jar InstallDir.java .javaSharedLib []).2)
  | .prebuilt, .prebuilt p =>
    s.add bundle .prebuilt n p.outputFile (InstallDir.prebuilt p.subDir) .etc []
  | .key, .key k =>
    -- a public key is embedded in builds for development only
    let publicKeyFile :=
      if !k.installable && settings.debuggable then some k.publicKeyFile else s.publicKeyFile
    (false, { s with keyFile := some k.privateKeyFile, publicKeyFile })
  | .certificate, .certificate c => (false, { s with certificate := some c })
  | .moduleDep, _ => (false, s)
  | tag, _ => (false, s.report bundle (.wrongKind tag n.name))

def indirect (bundle : BundleModule) (s : Findings) (n : Node) : Bool × Findings :=
  match n.kind with
  | .library l =>
    if l.installable && !l.isStubs && !l.hasStubsVariants then s.addLibrary bundle n l
    else (false, s)
  | _ => (false, s)

def visit (g : ModuleGraph) (settings : Settings) (bundle : BundleModule) :
    ModuleGraph.Visitor Findings :=
  fun s e =>
    match g.node? e.child with
    | none => (false, s)
    | some n =>
      if e.parent = bundle.id then direct settings bundle s e.tag n else indirect bundle s n

def ofBundle (g : ModuleGraph) (settings : Settings) (bundle : BundleModule) : Findings :=
  g.walk bundle.id (visit g settings bundle) {}

end Findings

/-- The files of a bundle, sorted and without repetition, and what signs it. -/
structure Collection where
  bundle : String
  files : List PackagedFile
  keyFile : Path
  publicKeyFile : Option Path
  certificate : Option Certificate
  errors : List PropertyError

namespace Collection

def normalised (bundle : String) (files : List PackagedFile) : List PackagedFile :=
  PackagedFile.namespaced bundle (PackagedFile.sorted (PackagedFile.dropRepeated files))

def ofBundle (g : ModuleGraph) (bundle : BundleModule) (settings : Settings) :
    Except BundleError Collection :=
  let found := Findings.ofBundle g settings bundle
  match found.keyFile with
  | none => .error ⟨bundle.name, .keyUnresolved (bundle.properties.key.getD "")⟩
  | some keyFile => .ok {
      bundle := bundle.name
      files := normalised bundle.name found.files
      keyFile
      publicKeyFile := found.publicKeyFile
      certificate := found.certificate
      errors := found.errors }

end Collection

def Certificate.named (settings : Settings) (name : String) : Certificate :=
  ⟨settings.certDir / (name ++ ".x509.pem"), settings.certDir / (name ++ ".pk8")⟩

/-- The certificate that signs a bundle: the named pair, the pair of the named module, or the
default pair. -/
def BundleModule.certificate (bundle : BundleModule) (ofModule : Option Certificate)
    (settings : Settings) : Certificate :=
  match Bundle.given bundle.properties.certificate with
  | none => .named settings settings.defaultCertificate
  | some c =>
    if (moduleReference? c).isNone then .named settings c
    else ofModule.getD (.named settings settings.defaultCertificate)

end BundleWright
