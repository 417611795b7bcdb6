import BundleWright.AccessModes
import BundleWright.Action
import BundleWright.Collection
import BundleWright.FileTree
import BundleWright.PackageName
import BundleWright.ToolCommand
/-!
The plan of a bundle: every action that turns its collected files into signed outputs. An archive
form is planned per chosen payload; the directory form beside the image is what gets installed when
the build asks for it.
-/
namespace BundleWright

structure Plan where
  bundle : String
  /-- The files in the archives. -/
  files : List PackagedFile
  /-- The files of the directory form. -/
  flattenedFiles : List PackagedFile
  actions : List Action
  outputs : List (Payload × Path)
  /-- The image repacked for distribution. -/
  bundleModule : Option Path
  /-- Whether bundles are installed in directory form. -/
  flattened : Bool
  installDir : Path
  errors : List PropertyError

namespace Plan

/-- What other modules may refer to: the signed image. -/
def sources (p : Plan) : List Path := (p.outputs.lookup Payload.image).toList

def installedFiles (p : Plan) : List Path := (p.actions.filter (·.install)).flatMap (·.outputs)

end Plan

namespace BundleModule

def outDir (b : BundleModule) (s : Settings) : Path :=
  s.outDir / b.name / (b.target.variantName ++ "_" ++ b.name)

end BundleModule

def Settings.installDir (s : Settings) : Path := s.installRoot / "apex"

inductive PlanError where
  | bundle (e : BundleError)
  /-- Whether the file of security labels exists cannot be told. -/
  | refused (e : FileError)
  deriving DecidableEq, Repr

namespace BundleModule

def fileContexts (b : BundleModule) (s : Settings) (tree : FileTree) : Except PlanError Path :=
  let name := b.node.bundle.fileContextsName ++ "-file_contexts"
  let path := s.sepolicyPath / name
  match tree.isFile path with
  | .error e => .error (.refused e)
  | .ok true => .ok path
  | .ok false =>
    .error (.bundle ⟨b.name, .fileContextsNotFound (s.sepolicyDir ++ "/" ++ name)⟩)

def payloadPath (b : BundleModule) (s : Settings) (payload : Payload) (stem tail : String) : Path :=
  b.outDir s / (stem ++ payload.ending ++ tail)

def stagingDir (b : BundleModule) (s : Settings) (payload : Payload) : Path :=
  b.payloadPath s payload "image" ""

def unsigned (b : BundleModule) (s : Settings) (payload : Payload) : Path :=
  b.payloadPath s payload b.name ".unsigned"

def signed (b : BundleModule) (s : Settings) (payload : Payload) : Path :=
  b.payloadPath s payload b.name ""

def converted (b : BundleModule) (s : Settings) : Path :=
  b.payloadPath s .image (b.name ++ ".pb") ""

def repacked (b : BundleModule) (s : Settings) : Path :=
  b.payloadPath s .image b.name "-base.zip"

def accessTable (b : BundleModule) (s : Settings) : Path := b.outDir s / "canned_fs_config"

def payloadInputs (b : BundleModule) (c : Collection) : List Path :=
  c.files.map (·.builtFile) ++ [b.node.manifestPath]

def makeAction (b : BundleModule) (s : Settings) (payload : Payload) (inputs : List Path)
    (argv : List String) : Action where
  description := "apex (" ++ payload.word ++ ")"
  outputs := [b.unsigned s payload]
  inputs := inputs
  work := .command argv (ToolCommand.makerVariables s)

def imageActions (b : BundleModule) (c : Collection) (s : Settings) (contexts : Path) :
    List Action :=
  let table := b.accessTable s
  let argv := ToolCommand.image s {
    manifest := b.node.manifestPath
    fileContexts := contexts
    accessModes := table
    key := c.keyFile
    publicKey := c.publicKeyFile
    packageName := PackageName.override? b.name s.packageNameOverrides
    dir := b.stagingDir s .image } (b.unsigned s .image)
  let abis := Target.mainAbis b.node.targets
  [{ description := "generate fs config"
     outputs := [table]
     work := .write (AccessModes.ofFiles c.files).table },
    b.makeAction s .image
      (b.payloadInputs c ++ [table, contexts, c.keyFile] ++ c.publicKeyFile.toList) argv,
    { description := "apex proto convert"
      outputs := [b.converted s]
      inputs := [b.unsigned s .image]
      work := .command (ToolCommand.protoConvert s (b.unsigned s .image) (b.converted s)) [] },
    { description := "apex bundle module"
      outputs := [b.repacked s]
      inputs := [b.converted s]
      work := .command (ToolCommand.bundleModule s (b.converted s) (b.repacked s) abis) [] }]

def zipActions (b : BundleModule) (c : Collection) (s : Settings) : List Action :=
  [b.makeAction s .zip (b.payloadInputs c)
    (ToolCommand.zip s b.node.manifestPath (b.stagingDir s .zip) (b.unsigned s .zip))]

def signActions (b : BundleModule) (certificate : Certificate) (s : Settings) (payload : Payload) :
    List Action :=
  let signed := b.signed s payload
  [{ description := "signapk"
     outputs := [signed]
     inputs := [b.unsigned s payload, certificate.pem, certificate.key]
     work := .command (ToolCommand.sign s certificate (b.unsigned s payload) signed) [] }] ++
  if b.node.bundle.isInstallable && !s.flattenApex then
    [{ description := "install " ++ signed.name
       outputs := [s.installDir / (b.name ++ payload.ending)]
       inputs := [signed]
       work := .copy
       install := true }]
  else []

def planImage (b : BundleModule) (c : Collection) (certificate : Certificate) (s : Settings)
    (contexts : Path) : List Action :=
  [Action.staging c.files (b.stagingDir s .image)] ++ b.imageActions c s contexts ++
    b.signActions certificate s .image

def planZip (b : BundleModule) (c : Collection) (certificate : Certificate) (s : Settings) :
    List Action :=
  [Action.staging c.files (b.stagingDir s .zip)] ++ b.zipActions c s ++
    b.signActions certificate s .zip

def flattenedManifest (b : BundleModule) (s : Settings) : PackagedFile where
  builtFile := b.outDir s / Bundle.defaultManifest
  moduleName := b.name ++ "." ++ Bundle.defaultManifest
  installDir := "."
  fileClass := .etc
  symlinks := []
  owner := none
  inside := by decide +kernel
  plain := by simp

def installFlattened (b : BundleModule) (s : Settings) (f : PackagedFile) : Action where
  description := "install " ++ f.moduleName
  outputs := [f.destination (s.installDir / b.name)]
  inputs := [f.builtFile]
  work := .copy
  install := true

/-- The directory form of an installable bundle and its files, the manifest last. -/
def planFlattened (b : BundleModule) (files : List PackagedFile) (s : Settings) :
    List Action × List PackagedFile :=
  if b.node.bundle.isInstallable then
    let manifest := b.flattenedManifest s
    let all := files ++ [manifest]
    let copied : Action :=
      { description := "copy " ++ b.node.bundle.manifestName
        outputs := [manifest.builtFile]
        inputs := [b.node.manifestPath]
        work := .copy }
    (copied :: if s.flattenApex then all.map (b.installFlattened s) else [], all)
  else ([], files)

def selection (b : BundleModule) : Except BundleError PayloadSelection :=
  match PayloadSelection.ofWord? b.properties.payloadType with
  | some p => .ok p
  | none => .error ⟨b.name, .payloadTypeInvalid (b.properties.payloadType.getD "")⟩

/-- The plan of a bundle, archive first; fails for an unknown payload, and for an image without its
file of security labels. -/
def plan (b : BundleModule) (c : Collection) (s : Settings) (tree : FileTree) :
    Except PlanError Plan := do
  let selection ← b.selection.mapError .bundle
  let certificate := b.certificate c.certificate s
  let zip := if selection.hasZip then b.planZip c certificate s else []
  let zipOutput := if selection.hasZip then [(Payload.zip, b.signed s .zip)] else []
  if selection.hasImage then
    let contexts ← b.fileContexts s tree
    let (flattened, flattenedFiles) := b.planFlattened c.files s
    return {
      bundle := b.name
      files := c.files
      flattenedFiles
      actions := zip ++ b.planImage c certificate s contexts ++ flattened
      outputs := zipOutput ++ [(.image, b.signed s .image)]
      bundleModule := some (b.repacked s)
      flattened := s.flattened
      installDir := s.installDir
      errors := c.errors }
  else
    return {
      bundle := b.name
      files := c.files
      flattenedFiles := c.files
      actions := zip
      outputs := zipOutput
      bundleModule := none
      flattened := s.flattened
      installDir := s.installDir
      errors := c.errors }

end BundleModule

end BundleWright
