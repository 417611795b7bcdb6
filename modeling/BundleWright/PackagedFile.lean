import BundleWright.Graph
import BundleWright.Payload
import BundleWright.Text.Quoted
/-!
Files embedded in a bundle, and the directories they are put in. The type keeps two promises: the
directory stays inside the bundle, and links beside the file have plain names.
-/
namespace BundleWright

inductive PlacementFault where
  | outside (dir : String)
  | linkName (name : String)
  deriving DecidableEq, Repr

def PlacementFault.message : PlacementFault → String
  | .outside dir => "install_dir must stay inside the bundle: " ++ dir
  | .linkName name => "symlink must be a plain file name: " ++ Text.quoted name

structure PackagedFile where
  builtFile : Path
  moduleName : String
  installDir : String
  fileClass : FileClass
  symlinks : List String
  owner : Option NodeKey
  inside : Path.isRelativeSubdir installDir = true
  plain : ∀ s ∈ symlinks, Path.isPlainName s = true
  deriving DecidableEq

namespace PackagedFile

/-- A file with its place checked: the directory first, then the links in order. -/
def make (builtFile : Path) (moduleName installDir : String) (fileClass : FileClass)
    (symlinks : List String) (owner : Option NodeKey) : Except PlacementFault PackagedFile :=
  if hd : Path.isRelativeSubdir installDir = true then
    match hs : symlinks.find? (!Path.isPlainName ·) with
    | none => .ok ⟨builtFile, moduleName, installDir, fileClass, symlinks, owner, hd,
        fun s h => by simpa using List.find?_eq_none.1 hs s h⟩
    | some s => .error (.linkName s)
  else .error (.outside installDir)

def pathInBundle (f : PackagedFile) : String := (Path.ofString f.installDir / f.builtFile.name).text

def withModuleName (f : PackagedFile) (name : String) : PackagedFile :=
  { f with moduleName := name }

/-- The files whose built file has not been met before, in order. -/
def dropRepeated (files : List PackagedFile) (met : List Path := []) : List PackagedFile :=
  match files with
  | [] => []
  | f :: rest =>
    if met.contains f.builtFile then dropRepeated rest met
    else f :: dropRepeated rest (f.builtFile :: met)

def sorted (files : List PackagedFile) : List PackagedFile :=
  files.mergeSort (·.builtFile.text ≤ ·.builtFile.text)

def namespaced (bundle : String) (files : List PackagedFile) : List PackagedFile :=
  files.map fun f => f.withModuleName (bundle ++ "." ++ f.moduleName)

end PackagedFile

def joinDirs (dirs : List String) : String :=
  match dirs.filter (· ≠ "") with
  | [] => ""
  | ds => ((ds.map Path.ofString).foldl Path.join .here).text

namespace InstallDir

/-- Runtime libraries that the system itself provides under the usual names. -/
def systemLibraries : List String := ["libc", "libm", "libdl"]

def systemLibrariesDir : String := "bionic"

/-- A native library goes by bitness, its own subdirectory, the architecture if it is translated,
and away from the search path if the system provides it too. -/
def library (name : String) (target : Target) (relativeInstallPath : String)
    (setSystemApart : Bool) : String :=
  let base := joinDirs [if target.is64bit then "lib64" else "lib", relativeInstallPath]
  let base := if target.native then base else joinDirs [base, target.arch]
  if setSystemApart && systemLibraries.contains name then joinDirs [base, systemLibrariesDir]
  else base

def binary : String := "bin"

def script (subDir : String) : String := joinDirs ["bin", subDir]

def java : String := "javalib"

def prebuilt (subDir : String) : String := joinDirs ["etc", subDir]

def ofNode? (n : Node) (setSystemApart : Bool) : Option String :=
  match n.kind with
  | .library l => some (library n.name n.target l.relativeInstallPath setSystemApart)
  | .binary _ => some binary
  | .script s => some (script s.subDir)
  | .java _ => some java
  | .prebuilt p => some (prebuilt p.subDir)
  | _ => none

end InstallDir

end BundleWright
