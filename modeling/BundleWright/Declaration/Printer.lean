import BundleWright.Declaration
import BundleWright.Datum
/-!
Declarations as data, every field written out.
-/
namespace BundleWright

def NativeDeps.toDatum (d : NativeDeps) : Datum :=
  .obj [("native_shared_libs", .ofStrings d.sharedLibs), ("binaries", .ofStrings d.binaries)]

def Multilib.toDatum (m : Multilib) : Datum :=
  .obj (Bucket.all.map fun b => (b.word, (m.bucket b).toDatum))

def PerOs.toDatum (p : PerOs) : Datum :=
  let block (m : Multilib) : Datum := .obj [("multilib", m.toDatum)]
  .obj [("android", block p.android), ("host", block p.host),
    ("linux_bionic", block p.linuxBionic), ("linux_glibc", block p.linuxGlibc)]

def BundleProperties.toFields (p : BundleProperties) : Fields :=
  [("manifest", .ofString? p.manifest), ("file_contexts", .ofString? p.fileContexts),
    ("native_shared_libs", .ofStrings p.nativeSharedLibs), ("binaries", .ofStrings p.binaries),
    ("java_libs", .ofStrings p.javaLibs), ("prebuilts", .ofStrings p.prebuilts),
    ("key", .ofString? p.key), ("payload_type", .ofString? p.payloadType),
    ("certificate", .ofString? p.certificate), ("installable", .ofBool? p.installable),
    ("use_vendor", .ofBool? p.useVendor),
    ("ignore_system_library_special_case", .ofBool? p.ignoreSystemLibrarySpecialCase),
    ("multilib", p.multilib.toDatum), ("target", p.perOs.toDatum)]

def Bundle.toDatum (b : Bundle) : Datum :=
  let own : Fields :=
    [("type", .str b.flavor.word), ("name", .str b.name), ("defaults", .ofStrings b.defaults)]
  .obj (b.properties.toFields ++ own)

def BundleDefaults.toDatum (d : BundleDefaults) : Datum :=
  let own : Fields := [("type", .str "apex_defaults"), ("name", .str d.name)]
  .obj (d.properties.toFields ++ own)

namespace Declaration

def toDatum : Declaration → Datum
  | .library d => .obj [("name", .str d.name), ("type", .str d.flavor.word),
      ("shared_libs", .ofStrings d.sharedLibs),
      ("relative_install_path", .ofString? d.relativeInstallPath),
      ("stubs", .ofOption (d.stubs.map fun v => .obj [("versions", .ofStrings v)])),
      ("installable", .ofBool? d.installable), ("vendor_available", .ofBool? d.vendorAvailable),
      ("stem", .ofString? d.stem)]
  | .binary d => .obj [("name", .str d.name), ("type", .str "cc_binary"),
      ("shared_libs", .ofStrings d.sharedLibs), ("symlinks", .ofStrings d.symlinks),
      ("relative_install_path", .ofString? d.relativeInstallPath),
      ("vendor_available", .ofBool? d.vendorAvailable), ("stem", .ofString? d.stem)]
  | .script d => .obj [("name", .str d.name), ("type", .str "sh_binary"), ("src", .str d.src),
      ("sub_dir", .ofString? d.subDir), ("filename", .ofString? d.filename)]
  | .java d => .obj [("name", .str d.name), ("type", .str "java_library"),
      ("libs", .ofStrings d.libs), ("installable", .ofBool? d.installable),
      ("compile_dex", .ofBool? d.compileDex)]
  | .prebuilt d => .obj [("name", .str d.name), ("type", .str "prebuilt_etc"), ("src", .str d.src),
      ("sub_dir", .ofString? d.subDir), ("filename", .ofString? d.filename)]
  | .key d => .obj [("name", .str d.name), ("type", .str "apex_key"),
      ("public_key", .str d.publicKey), ("private_key", .str d.privateKey),
      ("installable", .ofBool? d.installable)]
  | .certificate d => .obj [("name", .str d.name), ("type", .str "android_app_certificate"),
      ("certificate", .str d.certificate)]
  | .bundle d => d.toDatum
  | .defaults d => d.toDatum

def fieldName : Scalar → Scalar
  | .str "32" => "lib32"
  | .str "64" => "lib64"
  | k => k

mutual

/-- The part of a full value whose fields the written value names. -/
def writtenPart (full written : Datum) : Datum :=
  match full, written with
  | .obj fs, .obj ws => .obj (writtenFields fs ws)
  | full, _ => full
  termination_by (sizeOf full, 0)

def writtenFields (fs ws : Fields) : Fields :=
  match fs with
  | [] => []
  | (k, v) :: rest =>
    match ws.find? fun w => fieldName w.1 = k with
    | some w => (k, writtenPart v w.2) :: writtenFields rest ws
    | none => writtenFields rest ws
  termination_by (sizeOf fs, 1)

end

end Declaration

end BundleWright
