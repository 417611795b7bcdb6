import BundleWright.Declaration
import BundleWright.Path
import BundleWright.Target
/-!
Nodes of the module graph: one module built for one target and image.
-/
namespace BundleWright

structure Certificate where
  pem : Path
  key : Path
  deriving DecidableEq, Repr

/-- The certificate of a node that has not been given one. -/
def Certificate.blank : Certificate := ⟨.here, .here⟩

structure NativeLibrary where
  outputFile : Path := .here
  relativeInstallPath : String := ""
  /-- The library only stands for an interface of the base system. -/
  isStubs : Bool := false
  hasStubsVariants : Bool := false
  installable : Bool := true
  deriving DecidableEq, Repr

structure NativeBinary where
  outputFile : Path := .here
  symlinks : List String := []
  relativeInstallPath : String := ""
  deriving DecidableEq, Repr

structure Script where
  outputFile : Path := .here
  subDir : String := ""
  deriving DecidableEq, Repr

structure JavaLibrary where
  /-- The compiled archive, if the library is compiled to one. -/
  dexJar : Option Path := none
  deriving DecidableEq, Repr

structure Prebuilt where
  outputFile : Path := .here
  subDir : String := ""
  deriving DecidableEq, Repr

structure SigningKey where
  publicKeyFile : Path := .here
  privateKeyFile : Path := .here
  installable : Bool := true
  deriving DecidableEq, Repr

structure BundleNode where
  bundle : Bundle
  /-- The targets whose code the bundle embeds, the main one first. -/
  targets : List Target := []
  sourceDir : Path := .here
  deriving DecidableEq, Repr

def BundleNode.manifestPath (b : BundleNode) : Path := b.sourceDir / b.bundle.manifestName

inductive NodeKind where
  | plain
  | library (l : NativeLibrary)
  | binary (b : NativeBinary)
  | script (s : Script)
  | java (j : JavaLibrary)
  | prebuilt (p : Prebuilt)
  | key (k : SigningKey)
  | certificate (c : Certificate)
  | bundle (b : BundleNode)
  deriving DecidableEq, Repr

structure NodeKey where
  name : String
  variant : String
  deriving DecidableEq, Repr

def NodeKey.le (a b : NodeKey) : Bool :=
  if a.name = b.name then a.variant ≤ b.variant else a.name ≤ b.name

def coreImage : String := "core"

def vendorImage : String := "vendor"

structure Node where
  name : String
  target : Target
  /-- The modules this one depends on by itself. -/
  deps : List String := []
  image : String := coreImage
  kind : NodeKind := .plain
  deriving DecidableEq, Repr

namespace Node

def variantId (n : Node) : String :=
  if n.image = coreImage then n.target.variantName else n.target.variantName ++ "_" ++ n.image

def key (n : Node) : NodeKey := ⟨n.name, n.variantId⟩

/-- The axes on which a dependency edge may select this node, with the node's values. Scripts and
resource files are the same for all images; native libraries also say how they are linked. -/
def variations (n : Node) : List (String × String) :=
  match n.kind with
  | .script _ | .prebuilt _ => [("arch", n.target.variantName)]
  | .library _ =>
    [("arch", n.target.variantName), ("image", n.image), ("link", "shared")]
  | _ => [("arch", n.target.variantName), ("image", n.image)]

/-- Whether the module can be built once more for each bundle around it. -/
def hasBundleVariants (n : Node) : Bool :=
  match n.kind with
  | .library _ | .binary _ | .java _ => true
  | _ => false

/-- Whether the module may enter a bundle because another one needs it. -/
def isInstallableToBundle (n : Node) : Bool :=
  match n.kind with
  | .library l => l.installable && !l.isStubs
  | _ => false

def bundle? (n : Node) : Option BundleNode :=
  match n.kind with
  | .bundle b => some b
  | _ => none

end Node

structure BundleModule where
  name : String
  target : Target
  node : BundleNode
  deps : List String := []
  image : String := coreImage
  /-- What stands for the bundle in the graph: the key it is registered with. -/
  id : NodeKey := ⟨name, target.variantName⟩
  deriving DecidableEq, Repr

namespace BundleModule

def toNode (b : BundleModule) : Node where
  name := b.name
  target := b.target
  deps := b.deps
  image := b.image
  kind := .bundle b.node

/-- The bundle with the fields of a changed node, if that still is a bundle. -/
def withNode (b : BundleModule) (n : Node) : BundleModule :=
  match n.bundle? with
  | some node => { b with name := n.name, target := n.target, node, deps := n.deps, image := n.image }
  | none => b

def properties (b : BundleModule) : BundleProperties := b.node.bundle.properties

end BundleModule

end BundleWright
