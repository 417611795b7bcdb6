import BundleWright.Checked.Value
import BundleWright.Declaration
import BundleWright.Path
/-!
Reading declarations out of data, with every flaw reported at its place.
-/
namespace BundleWright

namespace Declaration

def isNameChar (c : Char) : Bool := c.isAlphanum || "_.-+@".toList.contains c

/-- A text matches the name pattern when it is made of name characters, at least one, where the end
may also be marked by a newline. -/
def matchesName (cs : List Char) : Bool :=
  let body := if cs.getLast? = some '\n' then cs.dropLast else cs
  !body.isEmpty && body.all isNameChar

def namePattern : String := "^[a-zA-Z0-9_.\\-+@]+$"

def longestName : Nat := 255

/-- A text of 1 to 255 characters. -/
def readLabel (j : Datum) : Checked String :=
  (Checked.string j).andThen fun s =>
    if s.length < 1 then Checked.fail .tooShort j
    else if longestName < s.length then Checked.fail .tooLong j
    else .sound s

def readName (j : Datum) : Checked String :=
  (readLabel j).andThen fun s =>
    if matchesName s.toList then .sound s
    else Checked.fail (.rejected s!"name must match pattern {namePattern}, got '{s}'") j

/-- The first rule that a name in a dependency list breaks. -/
def dependencyFault? (s : String) : Option Fault :=
  if s.toList.all Text.isBlank then some (.rejected "list items must be non-empty strings")
  else if s.toList.any Text.isBlank then
    some (.rejected s!"list items must not contain whitespace, got '{s}'")
  else none

def readDependencies (j : Datum) : Checked (List String) :=
  (Checked.strings j).andThen fun names =>
    match names.findSome? dependencyFault? with
    | none => .sound names
    | some fault => Checked.fail fault j

def readSubdir (j : Datum) : Checked (Option String) :=
  (Checked.optional Checked.string j).andThen fun dir =>
    match dir with
    | none => .sound none
    | some d =>
      if Path.isRelativeSubdir d then .sound (some d)
      else Checked.fail (.rejected s!"must be a relative path inside the bundle, got '{d}'") j

def readSymlinks (j : Datum) : Checked (List String) :=
  (Checked.strings j).andThen fun names =>
    match names.find? (!Path.isPlainName ·) with
    | none => .sound names
    | some s => Checked.fail (.rejected s!"symlinks must be plain file names, got '{s}'") j

def readText? : Datum → Checked (Option String) := Checked.optional Checked.string

def readFlag? : Datum → Checked (Option Bool) := Checked.optional Checked.bool

def readObject {α : Type} (known : Fields → List String) (read : Fields → Checked α)
    (j : Datum) : Checked α :=
  (Checked.fields j).andThen fun fs => (fun a _ => a) <$> read fs <*> Checked.noOthers fs (known fs)

def readNativeDeps : Datum → Checked NativeDeps :=
  readObject (fun _ => ["native_shared_libs", "binaries"]) fun fs =>
    NativeDeps.mk <$> Checked.field fs "native_shared_libs" [] readDependencies
      <*> Checked.field fs "binaries" [] readDependencies

/-- The key under which a bucket is declared: its short name wins over its long one. -/
def bucketKey (fs : Fields) (short long : String) : String :=
  if fs.keys.contains short then short else long

def readMultilib : Datum → Checked Multilib :=
  let key32 (fs : Fields) : String := bucketKey fs "32" "lib32"
  let key64 (fs : Fields) : String := bucketKey fs "64" "lib64"
  readObject (fun fs => ["first", "both", "prefer32", key32 fs, key64 fs]) fun fs =>
    Multilib.mk <$> Checked.field fs "first" {} readNativeDeps
      <*> Checked.field fs "both" {} readNativeDeps
      <*> Checked.field fs "prefer32" {} readNativeDeps
      <*> Checked.field fs (key32 fs) {} readNativeDeps
      <*> Checked.field fs (key64 fs) {} readNativeDeps

def readOsMultilib : Datum → Checked Multilib :=
  readObject (fun _ => ["multilib"]) fun fs => Checked.field fs "multilib" {} readMultilib

def readPerOs : Datum → Checked PerOs :=
  readObject (fun _ => ["android", "host", "linux_bionic", "linux_glibc"]) fun fs =>
    PerOs.mk <$> Checked.field fs "android" {} readOsMultilib
      <*> Checked.field fs "host" {} readOsMultilib
      <*> Checked.field fs "linux_bionic" {} readOsMultilib
      <*> Checked.field fs "linux_glibc" {} readOsMultilib

def propertyKeys : List String :=
  ["manifest", "file_contexts", "native_shared_libs", "binaries", "java_libs", "prebuilts", "key",
    "payload_type", "certificate", "installable", "use_vendor",
    "ignore_system_library_special_case", "multilib", "target"]

def readProperties (fs : Fields) : Checked BundleProperties :=
  BundleProperties.mk <$> Checked.field fs "manifest" none readText?
    <*> Checked.field fs "file_contexts" none readText?
    <*> Checked.field fs "native_shared_libs" [] readDependencies
    <*> Checked.field fs "binaries" [] readDependencies
    <*> Checked.field fs "java_libs" [] readDependencies
    <*> Checked.field fs "prebuilts" [] readDependencies
    <*> Checked.field fs "key" none readText?
    <*> Checked.field fs "payload_type" none readText?
    <*> Checked.field fs "certificate" none readText?
    <*> Checked.field fs "installable" none readFlag?
    <*> Checked.field fs "use_vendor" none readFlag?
    <*> Checked.field fs "ignore_system_library_special_case" none readFlag?
    <*> Checked.field fs "multilib" {} readMultilib
    <*> Checked.field fs "target" {} readPerOs

def readPropertyObject : Datum → Checked BundleProperties :=
  readObject (fun _ => propertyKeys) readProperties

def readWord {α : Type} (word : α → String) (values : List α) (d : Datum) : Checked α :=
  match d with
  | .str s =>
    match values.find? (word · = s) with
    | some a => .sound a
    | none => Checked.fail .literal d
  | _ => Checked.fail .literal d

def readBundle : Datum → Checked Bundle :=
  readObject (fun _ => "type" :: "name" :: "defaults" :: propertyKeys) fun fs =>
    (fun props flavor name defaults => ⟨flavor, name, defaults, props⟩)
      <$> readProperties fs
      <*> Checked.field fs "type" .apex (readWord BundleFlavor.word [.apex, .test])
      <*> Checked.required fs "name" readName
      <*> Checked.field fs "defaults" [] Checked.strings

def readDefaults : Datum → Checked BundleDefaults :=
  readObject (fun _ => "type" :: "name" :: propertyKeys) fun fs =>
    (fun props _ name => ⟨name, props⟩)
      <$> readProperties fs
      <*> Checked.field fs "type" () (readWord (fun _ => "apex_defaults") [()])
      <*> Checked.required fs "name" readLabel

def readStubs : Datum → Checked (List String) :=
  readObject (fun _ => ["versions"]) fun fs => Checked.field fs "versions" [] Checked.strings

def readLibrary (flavor : LibraryFlavor) : Datum → Checked LibraryDecl :=
  readObject (fun _ => ["type", "name", "shared_libs", "relative_install_path", "stubs",
      "installable", "vendor_available", "stem"]) fun fs =>
    LibraryDecl.mk flavor <$> Checked.required fs "name" readName
      <*> Checked.field fs "shared_libs" [] Checked.strings
      <*> Checked.field fs "relative_install_path" none readSubdir
      <*> Checked.field fs "stubs" none (Checked.optional readStubs)
      <*> Checked.field fs "installable" none readFlag?
      <*> Checked.field fs "vendor_available" none readFlag?
      <*> Checked.field fs "stem" none readText?

def readBinary : Datum → Checked BinaryDecl :=
  readObject (fun _ => ["type", "name", "shared_libs", "symlinks", "relative_install_path",
      "vendor_available", "stem"]) fun fs =>
    BinaryDecl.mk <$> Checked.required fs "name" readName
      <*> Checked.field fs "shared_libs" [] Checked.strings
      <*> Checked.field fs "symlinks" [] readSymlinks
      <*> Checked.field fs "relative_install_path" none readSubdir
      <*> Checked.field fs "vendor_available" none readFlag?
      <*> Checked.field fs "stem" none readText?

def readScript : Datum → Checked ScriptDecl :=
  readObject (fun _ => ["type", "name", "src", "sub_dir", "filename"]) fun fs =>
    ScriptDecl.mk <$> Checked.required fs "name" readName
      <*> Checked.required fs "src" Checked.string
      <*> Checked.field fs "sub_dir" none readSubdir
      <*> Checked.field fs "filename" none readText?

def readJava : Datum → Checked JavaDecl :=
  readObject (fun _ => ["type", "name", "libs", "installable", "compile_dex"]) fun fs =>
    JavaDecl.mk <$> Checked.required fs "name" readName
      <*> Checked.field fs "libs" [] Checked.strings
      <*> Checked.field fs "installable" none readFlag?
      <*> Checked.field fs "compile_dex" none readFlag?

def readPrebuilt : Datum → Checked PrebuiltDecl :=
  readObject (fun _ => ["type", "name", "src", "sub_dir", "filename"]) fun fs =>
    PrebuiltDecl.mk <$> Checked.required fs "name" readName
      <*> Checked.required fs "src" Checked.string
      <*> Checked.field fs "sub_dir" none readSubdir
      <*> Checked.field fs "filename" none readText?

def readKey : Datum → Checked KeyDecl :=
  readObject (fun _ => ["type", "name", "public_key", "private_key", "installable"]) fun fs =>
    KeyDecl.mk <$> Checked.required fs "name" readName
      <*> Checked.required fs "public_key" Checked.string
      <*> Checked.required fs "private_key" Checked.string
      <*> Checked.field fs "installable" none readFlag?

def readCertificate : Datum → Checked CertificateDecl :=
  readObject (fun _ => ["type", "name", "certificate"]) fun fs =>
    CertificateDecl.mk <$> Checked.required fs "name" readName
      <*> Checked.required fs "certificate" Checked.string

def reader? : String → Option (Datum → Checked Declaration)
  | "cc_library" => some fun j => .library <$> readLibrary .library j
  | "cc_library_shared" => some fun j => .library <$> readLibrary .shared j
  | "llndk_library" => some fun j => .library <$> readLibrary .llndk j
  | "cc_binary" => some fun j => .binary <$> readBinary j
  | "sh_binary" => some fun j => .script <$> readScript j
  | "java_library" => some fun j => .java <$> readJava j
  | "prebuilt_etc" => some fun j => .prebuilt <$> readPrebuilt j
  | "apex_key" => some fun j => .key <$> readKey j
  | "android_app_certificate" => some fun j => .certificate <$> readCertificate j
  | "apex" => some fun j => .bundle <$> readBundle j
  | "apex_test" => some fun j => .bundle <$> readBundle j
  | "apex_defaults" => some fun j => .defaults <$> readDefaults j
  | _ => none

def read (d : Datum) : Checked Declaration :=
  match d with
  | .obj fs =>
    match Fields.get? fs "type" with
    | none => Checked.fail .tagNotFound d
    | some tag =>
      let reading : Option (Checked Declaration) := match tag with
        | .str word => (reader? word).map fun r => (r d).under word
        | _ => none
      reading.getD (Checked.fail (.tagInvalid tag.shown) d)
  | .scalar (.other _ _) => Checked.fail .tagNotFound d
  | _ => Checked.fail .modelAttributesType d

def readDocument : Datum → Checked (List Declaration) :=
  readObject (fun _ => ["modules"]) fun fs => Checked.field fs "modules" [] (Checked.list read)

end Declaration

end BundleWright
