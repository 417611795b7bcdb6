import BundleWright.PackagedFile
/-!
Access modes inside an image. What lies in the directory of executables is executable, links
included, and so is every directory on the way to a file; other files can only be read.
-/
namespace BundleWright

/-- What decides the modes of a file: its directory, its path in the bundle, and its links. -/
structure ImageEntry where
  installDir : String
  pathInBundle : String
  symlinks : List String := []
  deriving DecidableEq, Repr

def PackagedFile.imageEntry (f : PackagedFile) : ImageEntry :=
  ⟨f.installDir, f.pathInBundle, f.symlinks⟩

namespace ImageEntry

def executablesDir : String := "bin"

/-- Whether the directory is the one of executables or below it, by its text. -/
def isExecutable (e : ImageEntry) : Bool :=
  e.installDir == executablesDir ||
    (executablesDir ++ "/").toList.isPrefixOf e.installDir.toList

/-- The directory and those above it, without the root of the bundle. -/
def directories (e : ImageEntry) : List String :=
  (Path.ofString e.installDir).lineage.dropLast.map Path.text

def linkPaths (e : ImageEntry) : List String :=
  e.symlinks.map fun (s : String) => (Path.ofString e.installDir / s).text

def readOnlyPaths (e : ImageEntry) : List String :=
  if e.isExecutable then [] else [e.pathInBundle]

def executablePaths (e : ImageEntry) : List String :=
  (if e.isExecutable then e.pathInBundle :: e.linkPaths else []) ++ e.directories

end ImageEntry

structure AccessModes where
  readOnly : List String
  executable : List String
  deriving DecidableEq, Repr

namespace AccessModes

def sortedOnce (l : List String) : List String := l.eraseDups.mergeSort (· ≤ ·)

def ofEntries (entries : List ImageEntry) : AccessModes where
  readOnly := sortedOnce (entries.flatMap ImageEntry.readOnlyPaths)
  executable := sortedOnce (entries.flatMap ImageEntry.executablePaths)

def ofFiles (files : List PackagedFile) : AccessModes :=
  ofEntries (files.map PackagedFile.imageEntry)

/-- The lines of the table of modes: a path with its owner, group and mode. -/
def tableLines (m : AccessModes) : List String :=
  ["/ 1000 1000 0755", "/apex_manifest.json 1000 1000 0644"] ++
    m.readOnly.map (fun p => "/" ++ p ++ " 1000 1000 0644") ++
    m.executable.map (fun p => "/" ++ p ++ " 0 2000 0755")

def table (m : AccessModes) : String := String.intercalate "\n" m.tableLines ++ "\n"

end AccessModes

end BundleWright
