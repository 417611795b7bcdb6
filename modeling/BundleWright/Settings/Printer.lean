import BundleWright.Settings
import BundleWright.Json.Printer
/-!
Settings as data, in the order of their declaration.
-/
namespace BundleWright.Settings

def toFields (s : Settings) : Fields :=
  [("source_root", .str s.sourceRoot.text), ("out_dir", .str s.outDir.text),
    ("install_root", .str s.installRoot.text), ("sepolicy_dir", .str s.sepolicyDir),
    ("default_cert_dir", .str s.defaultCertDir),
    ("default_certificate", .str s.defaultCertificate),
    ("targets", .ofStrings (s.targets.map Arch.word)),
    ("native_bridge_targets", .ofStrings (s.nativeBridgeTargets.map Arch.word)),
    ("target_os", .str s.targetOs.word), ("debuggable", .bool s.debuggable),
    ("flatten_apex", .bool s.flattenApex), ("unbundled_build", .bool s.unbundledBuild),
    ("vndk_version", .str s.vndkVersion),
    ("manifest_package_name_overrides", .ofStrings s.packageNameOverrides),
    ("apexer", .str s.apexer), ("aapt2", .str s.aapt2), ("zip2zip", .str s.zip2zip),
    ("java", .str s.java), ("signapk_jar", .str s.signapkJar),
    ("apexer_tool_path", .str s.apexerToolPath), ("log_level", .str s.logLevel.word),
    ("max_concurrent_bundles", .int s.maxConcurrentBundles),
    ("action_timeout", .int s.actionTimeout)]

def toDatum (s : Settings) : Datum := .obj s.toFields

def report (s : Settings) : String := Json.pretty .unicode s.toDatum

end BundleWright.Settings
