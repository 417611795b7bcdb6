/-!
What a declaration file declares: native libraries and binaries, scripts, managed libraries,
resource files, keys, certificates, bundles, and defaults that bundles share.
-/
namespace BundleWright

structure NativeDeps where
  sharedLibs : List String := []
  binaries : List String := []
  deriving DecidableEq, Repr

inductive Bucket where
  | first
  | both
  | prefer32
  | lib32
  | lib64
  deriving DecidableEq, Repr

def Bucket.all : List Bucket := [.first, .both, .prefer32, .lib32, .lib64]

def Bucket.word : Bucket → String
  | .first => "first"
  | .both => "both"
  | .prefer32 => "prefer32"
  | .lib32 => "lib32"
  | .lib64 => "lib64"

structure Multilib where
  first : NativeDeps := {}
  both : NativeDeps := {}
  prefer32 : NativeDeps := {}
  lib32 : NativeDeps := {}
  lib64 : NativeDeps := {}
  deriving DecidableEq, Repr

/-- Native dependencies that apply to one operating system only. -/
structure PerOs where
  android : Multilib := {}
  host : Multilib := {}
  linuxBionic : Multilib := {}
  linuxGlibc : Multilib := {}
  deriving DecidableEq, Repr

structure BundleProperties where
  manifest : Option String := none
  fileContexts : Option String := none
  nativeSharedLibs : List String := []
  binaries : List String := []
  javaLibs : List String := []
  prebuilts : List String := []
  key : Option String := none
  payloadType : Option String := none
  certificate : Option String := none
  installable : Option Bool := none
  useVendor : Option Bool := none
  ignoreSystemLibrarySpecialCase : Option Bool := none
  multilib : Multilib := {}
  perOs : PerOs := {}
  deriving DecidableEq, Repr

inductive BundleFlavor where
  | apex
  | test
  deriving DecidableEq, Repr

def BundleFlavor.word : BundleFlavor → String
  | .apex => "apex"
  | .test => "apex_test"

structure Bundle where
  flavor : BundleFlavor := .apex
  name : String
  defaults : List String := []
  properties : BundleProperties := {}
  deriving DecidableEq, Repr

structure BundleDefaults where
  name : String
  properties : BundleProperties := {}
  deriving DecidableEq, Repr

inductive LibraryFlavor where
  | library
  | shared
  | llndk
  deriving DecidableEq, Repr

def LibraryFlavor.word : LibraryFlavor → String
  | .library => "cc_library"
  | .shared => "cc_library_shared"
  | .llndk => "llndk_library"

structure LibraryDecl where
  flavor : LibraryFlavor
  name : String
  sharedLibs : List String := []
  relativeInstallPath : Option String := none
  /-- The versions of the stubs the library publishes. -/
  stubs : Option (List String) := none
  installable : Option Bool := none
  vendorAvailable : Option Bool := none
  stem : Option String := none
  deriving DecidableEq, Repr

structure BinaryDecl where
  name : String
  sharedLibs : List String := []
  symlinks : List String := []
  relativeInstallPath : Option String := none
  vendorAvailable : Option Bool := none
  stem : Option String := none
  deriving DecidableEq, Repr

structure ScriptDecl where
  name : String
  src : String
  subDir : Option String := none
  filename : Option String := none
  deriving DecidableEq, Repr

structure JavaDecl where
  name : String
  libs : List String := []
  installable : Option Bool := none
  compileDex : Option Bool := none
  deriving DecidableEq, Repr

structure PrebuiltDecl where
  name : String
  src : String
  subDir : Option String := none
  filename : Option String := none
  deriving DecidableEq, Repr

structure KeyDecl where
  name : String
  publicKey : String
  privateKey : String
  installable : Option Bool := none
  deriving DecidableEq, Repr

structure CertificateDecl where
  name : String
  certificate : String
  deriving DecidableEq, Repr

inductive Declaration where
  | library (d : LibraryDecl)
  | binary (d : BinaryDecl)
  | script (d : ScriptDecl)
  | java (d : JavaDecl)
  | prebuilt (d : PrebuiltDecl)
  | key (d : KeyDecl)
  | certificate (d : CertificateDecl)
  | bundle (d : Bundle)
  | defaults (d : BundleDefaults)
  deriving DecidableEq, Repr

namespace Multilib

def bucket (m : Multilib) : Bucket → NativeDeps
  | .first => m.first
  | .both => m.both
  | .prefer32 => m.prefer32
  | .lib32 => m.lib32
  | .lib64 => m.lib64

def ofBuckets (f : Bucket → NativeDeps) : Multilib :=
  ⟨f .first, f .both, f .prefer32, f .lib32, f .lib64⟩

@[simp] theorem bucket_ofBuckets (f : Bucket → NativeDeps) (b : Bucket) :
    (ofBuckets f).bucket b = f b := by cases b <;> rfl

theorem ext_bucket {m n : Multilib} (h : ∀ b, m.bucket b = n.bucket b) : m = n := by
  cases m; cases n
  simpa [bucket] using And.intro (h .first) ⟨h .both, h .prefer32, h .lib32, h .lib64⟩

end Multilib

def NativeDeps.append (a b : NativeDeps) : NativeDeps :=
  ⟨a.sharedLibs ++ b.sharedLibs, a.binaries ++ b.binaries⟩

def Multilib.extended (a b : Multilib) : Multilib :=
  .ofBuckets fun k => (a.bucket k).append (b.bucket k)

@[simp] theorem Multilib.bucket_extended (a b : Multilib) (k : Bucket) :
    (a.extended b).bucket k = (a.bucket k).append (b.bucket k) := by simp [extended]

namespace Bundle

def defaultManifest : String := "apex_manifest.json"

def isTest (b : Bundle) : Bool := b.flavor == .test

/-- A bundle is installed unless it says otherwise. -/
def isInstallable (b : Bundle) : Bool := b.properties.installable.getD true

def given (s : Option String) : Option String := s.filter (· ≠ "")

def manifestName (b : Bundle) : String := (given b.properties.manifest).getD defaultManifest

def fileContextsName (b : Bundle) : String := (given b.properties.fileContexts).getD b.name

end Bundle

def Declaration.name : Declaration → String
  | .library d => d.name
  | .binary d => d.name
  | .script d => d.name
  | .java d => d.name
  | .prebuilt d => d.name
  | .key d => d.name
  | .certificate d => d.name
  | .bundle d => d.name
  | .defaults d => d.name

end BundleWright
