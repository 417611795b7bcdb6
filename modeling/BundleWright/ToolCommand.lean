import BundleWright.Node
import BundleWright.Payload
import BundleWright.Settings
/-!
The argument lists of the tools that make, convert and sign bundles.
-/
namespace BundleWright.ToolCommand

structure ImageParts where
  manifest : Path
  fileContexts : Path
  accessModes : Path
  key : Path
  publicKey : Option Path := none
  packageName : Option String := none
  dir : Path

def image (s : Settings) (p : ImageParts) (output : Path) : List String :=
  [s.apexer, "--force", "--manifest", p.manifest.text, "--file_contexts", p.fileContexts.text,
    "--canned_fs_config", p.accessModes.text, "--payload_type", Payload.image.word,
    "--key", p.key.text] ++
    (match p.publicKey with
      | some k => ["--pubkey", k.text]
      | none => []) ++
    (match p.packageName with
      | some n => if n = "" then [] else ["--override_apk_package_name", n]
      | none => []) ++
    [p.dir.text, output.text]

def zip (s : Settings) (manifest dir output : Path) : List String :=
  [s.apexer, "--force", "--manifest", manifest.text, "--payload_type", Payload.zip.word, dir.text,
    output.text]

def protoConvert (s : Settings) (source output : Path) : List String :=
  [s.aapt2, "convert", "--output-format", "proto", source.text, "-o", output.text]

def bundleModule (s : Settings) (source output : Path) (abis : List String) : List String :=
  [s.zip2zip, "-i", source.text, "-o", output.text,
    "apex_payload.img:apex/" ++ String.intercalate "." abis ++ ".img",
    "apex_manifest.json:root/apex_manifest.json",
    "AndroidManifest.xml:manifest/AndroidManifest.xml"]

def alignment : String := "4096"

def sign (s : Settings) (c : Certificate) (source output : Path) : List String :=
  [s.java, "-jar", s.signapkJar, "-a", alignment, c.pem.text, c.key.text, source.text, output.text]

def makerVariables (s : Settings) : List (String × String) :=
  if s.apexerToolPath = "" then [] else [("APEXER_TOOL_PATH", s.apexerToolPath)]

end BundleWright.ToolCommand
