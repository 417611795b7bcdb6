import BundleWright.Graph
import BundleWright.Settings
/-!
The dependencies a bundle asks for. Each bucket of native dependencies applies to some of the
bundle's targets; lists outside the buckets stand for `both` (libraries) or `first` (the rest).
-/
namespace BundleWright

structure Request where
  name : String
  tag : Tag
  selector : Selector
  bucket : Option Bucket := none
  deriving DecidableEq, Repr

namespace Request

def arch? (r : Request) : Option String := r.selector.lookup "arch"

def library (target : Target) (image : String) (bucket : Bucket) (name : String) : Request :=
  ⟨name, .sharedLib, [("arch", target.variantName), ("image", image), ("link", "shared")],
    some bucket⟩

def executable (target : Target) (image : String) (bucket : Bucket) (name : String) : Request :=
  ⟨name, .executable, [("arch", target.variantName), ("image", image)], some bucket⟩

def prebuilt (target : Target) (name : String) : Request :=
  ⟨name, .prebuilt, [("arch", target.variantName)], some .first⟩

def java (os : String) (name : String) : Request :=
  ⟨name, .javaLib, [("arch", os ++ "_common")], none⟩

def native (target : Target) (image : String) (bucket : Bucket) (deps : NativeDeps) :
    List Request :=
  deps.sharedLibs.map (library target image bucket) ++
    deps.binaries.map (executable target image bucket)

end Request

/-- Whether a bucket applies to one of the targets; `main` says that it is the first one. -/
def Bucket.applies (targets : List Target) (main : Bool) (t : Target) : Bucket → Bool
  | .both => true
  | .first => main
  | .lib32 => t.is32bit
  | .lib64 => t.is64bit
  | .prefer32 => t.is32bit || (t.is64bit && !targets.any Target.is32bit)

namespace Request

/-- The native and prebuilt requests for one target, in the order in which edges are added. -/
def forTarget (targets : List Target) (main : Bool) (t : Target) (props : BundleProperties)
    (multilib : Multilib) (image : String) : List Request :=
  let bucket (b : Bucket) : List Request :=
    if b.applies targets main t then native t image b (multilib.bucket b) else []
  let unlisted : List Request :=
    if main then native t image .first ⟨[], props.binaries⟩ else []
  let prebuilts : List Request := if main then props.prebuilts.map (prebuilt t) else []
  native t image .both ⟨props.nativeSharedLibs, []⟩ ++ bucket .both ++
    unlisted ++ bucket .first ++ prebuilts ++
    bucket .lib32 ++ bucket .lib64 ++ bucket .prefer32

def forTargets (targets : List Target) (props : BundleProperties) (multilib : Multilib)
    (image : String) : List Request :=
  match targets with
  | [] => []
  | t :: rest =>
    forTarget targets true t props multilib image ++
      rest.flatMap fun u => forTarget targets false u props multilib image

end Request

/-- The buckets of a bundle with those of its operating system appended: a device uses the android
block, a host the host block and the block of its own kind of linux. -/
def BundleProperties.combinedMultilib (props : BundleProperties) (os : String)
    (osClass : OsClass) : Multilib :=
  match osClass with
  | .device => props.multilib.extended props.perOs.android
  | .host =>
    let multilib := props.multilib.extended props.perOs.host
    if os = TargetOs.linuxBionic.word then multilib.extended props.perOs.linuxBionic
    else multilib.extended props.perOs.linuxGlibc

namespace BundleModule

def requestedImage (b : BundleModule) (settings : Settings) : String :=
  if settings.vndkVersion ≠ "" && b.properties.useVendor == some true then vendorImage
  else coreImage

def requests (b : BundleModule) (settings : Settings) : List Request :=
  let osClass := (b.node.targets.head?.map Target.osClass).getD .device
  let multilib := b.properties.combinedMultilib b.target.os osClass
  Request.forTargets b.node.targets b.properties multilib (b.requestedImage settings) ++
    b.properties.javaLibs.map (Request.java b.target.os)

end BundleModule

end BundleWright
