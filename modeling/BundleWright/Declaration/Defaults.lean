import BundleWright.Declaration
/-!
Applying defaults to a bundle: lists of the defaults come first, in the order in which the defaults
are named, and other properties are taken from them only where the bundle leaves them unset.
-/
namespace BundleWright

def PerOs.overlay (base top : PerOs) : PerOs where
  android := base.android.extended top.android
  host := base.host.extended top.host
  linuxBionic := base.linuxBionic.extended top.linuxBionic
  linuxGlibc := base.linuxGlibc.extended top.linuxGlibc

namespace BundleProperties

/-- The properties `top` on top of `base`: lists appended, other values replaced where given. -/
def overlay (base top : BundleProperties) : BundleProperties where
  manifest := top.manifest.or base.manifest
  fileContexts := top.fileContexts.or base.fileContexts
  nativeSharedLibs := base.nativeSharedLibs ++ top.nativeSharedLibs
  binaries := base.binaries ++ top.binaries
  javaLibs := base.javaLibs ++ top.javaLibs
  prebuilts := base.prebuilts ++ top.prebuilts
  key := top.key.or base.key
  payloadType := top.payloadType.or base.payloadType
  certificate := top.certificate.or base.certificate
  installable := top.installable.or base.installable
  useVendor := top.useVendor.or base.useVendor
  ignoreSystemLibrarySpecialCase :=
    top.ignoreSystemLibrarySpecialCase.or base.ignoreSystemLibrarySpecialCase
  multilib := base.multilib.extended top.multilib
  perOs := base.perOs.overlay top.perOs

end BundleProperties

def Bundle.withDefaults (b : Bundle) (defaults : List BundleDefaults) : Bundle :=
  let shared : BundleProperties := defaults.foldl (fun p d => p.overlay d.properties) {}
  { b with properties := shared.overlay b.properties }

end BundleWright
