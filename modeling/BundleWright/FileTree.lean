import BundleWright.Path
import BundleWright.Text.Quoted
/-!
Directories, files and symbolic links as a finite map from places to entries, and the operations on
them that a build uses. An operation that fails leaves behind what it had done before.
-/
namespace BundleWright

/-- A place in the tree: the components from the root down, without links or dots. -/
abbrev Location := List String

inductive Entry where
  | dir
  | file (text : String)
  | link (target : String)
  deriving DecidableEq, Repr

inductive Errno where
  | noEntry
  | exists
  | notDirectory
  | isDirectory
  | invalid
  | nameTooLong
  | notEmpty
  | tooManyLinks
  deriving DecidableEq, Repr

def Errno.number : Errno → Nat
  | .noEntry => 2
  | .exists => 17
  | .notDirectory => 20
  | .isDirectory => 21
  | .invalid => 22
  | .nameTooLong => 36
  | .notEmpty => 39
  | .tooManyLinks => 40

def Errno.text : Errno → String
  | .noEntry => "No such file or directory"
  | .exists => "File exists"
  | .notDirectory => "Not a directory"
  | .isDirectory => "Is a directory"
  | .invalid => "Invalid argument"
  | .nameTooLong => "File name too long"
  | .notEmpty => "Directory not empty"
  | .tooManyLinks => "Too many levels of symbolic links"

inductive FileError where
  | refused (errno : Errno) (path : String)
  | linking (errno : Errno) (target link : String)
  /-- The tree to be removed is no directory. -/
  | clearing (errno : Errno) (path : String)
  | clearingLink
  /-- A file copied on itself; `dest` is shown as it was found. -/
  | sameFile (source dest : String) (destIsPath : Bool)
  /-- A file copied to a link that asks for a directory where there is none. -/
  | noDirectory (dest : String)
  /-- A path, or a word for a tool, holds the character that ends texts in the system. -/
  | nullInPath
  deriving DecidableEq, Repr

namespace FileError

def shownPath (path : String) : String := "PosixPath(" ++ Text.quoted path ++ ")"

def message : FileError → String
  | .refused e path => s!"[Errno {e.number}] {e.text}: {Text.quoted path}"
  | .linking e target link =>
    s!"[Errno {e.number}] {e.text}: {Text.quoted target} -> {Text.quoted link}"
  | .clearing e path => s!"[Errno {e.number}] {e.text}: {shownPath path}"
  | .clearingLink => "Cannot call rmtree on a symbolic link"
  | .sameFile source dest destIsPath =>
    let shown := if destIsPath then shownPath dest else Text.quoted dest
    s!"{shownPath source} and {shown} are the same file"
  | .noDirectory dest => "Directory does not exist: " ++ dest
  | .nullInPath => "embedded null byte"

end FileError

structure FileTree where
  /-- Every entry but the root, which is a directory. -/
  entries : List (Location × Entry) := []
  /-- Where relative paths start. -/
  workDir : Location := []
  deriving Repr

namespace FileTree

def get? (t : FileTree) (l : Location) : Option Entry :=
  if l = [] then some .dir else t.entries.lookup l

def put (t : FileTree) (l : Location) (e : Entry) : FileTree :=
  { t with entries := (l, e) :: t.entries.filter (·.1 ≠ l) }

def clear (t : FileTree) (l : Location) : FileTree :=
  { t with entries := t.entries.filter fun x => x.1 = l || !l.isPrefixOf x.1 }

def erase (t : FileTree) (l : Location) : FileTree :=
  { t with entries := t.entries.filter fun x => !l.isPrefixOf x.1 }

@[simp] theorem get?_put_self (t : FileTree) {l : Location} (e : Entry) (h : l ≠ []) :
    (t.put l e).get? l = some e := by
  simp [get?, put, h]

def mostLinks : Nat := 40

def longestName : Nat := 255

def longestPath : Nat := 4095

inductive Reach where
  /-- The entry itself, even if it is a link. -/
  | entry
  /-- What the entry leads to. -/
  | target
  /-- What the entry leads to, or the place where a file can be made. -/
  | creation
  deriving DecidableEq, Repr

/-- The steps that a link's target asks for; an empty last one says that it ends in a slash. -/
def linkSteps (target : String) : List String :=
  let pieces := (Text.splitOn '/' target.toList).map String.ofList
  pieces.dropLast.filter (· ≠ "") ++ pieces.getLast?.toList

def linkLength : Entry → Nat
  | .link target => (linkSteps target).length
  | _ => 0

def longestLink (t : FileTree) : Nat := (t.entries.map (linkLength ·.2)).foldr max 0

theorem length_linkSteps_le {t : FileTree} {l : Location} {target : String}
    (h : t.get? l = some (.link target)) : (linkSteps target).length ≤ t.longestLink := by
  unfold get? at h
  unfold longestLink
  split at h
  · cases h
  · generalize t.entries = es at h
    induction es with
    | nil => cases h
    | cons x rest ih =>
      rw [List.lookup_cons] at h
      rw [List.map_cons, List.foldr_cons]
      split at h
      · rw [Option.some.inj h]
        exact Nat.le_max_left _ _
      · exact Nat.le_trans (ih h) (Nat.le_max_right _ _)

/-- The place reached from `dir` by some steps. The last one need not exist, but what stands before
an empty step or a dot must be a directory; no file is made where a slash follows. -/
def descend (t : FileTree) (reach : Reach) (links : Nat) (dir : Location) (steps : List String) :
    Except Errno Location :=
  match steps with
  | [] => .ok dir
  | c :: rest =>
    if c = "" ∨ c = "." then descend t reach links dir rest
    else if c = ".." then descend t reach links dir.dropLast rest
    else if reach = .creation ∧ rest = [""] then .error .isDirectory
    else if longestName < c.utf8ByteSize then .error .nameTooLong
    else
      let next := dir ++ [c]
      match _ht : t.get? next with
      | none => if rest = [] then .ok next else .error .noEntry
      | some .dir => descend t reach links next rest
      | some (.file _) => if rest = [] then .ok next else .error .notDirectory
      | some (.link target) =>
        if rest = [] ∧ reach = .entry then .ok next
        else
          match links with
          | 0 => .error .tooManyLinks
          | links + 1 =>
            descend t reach links (if (Path.ofString target).isAbsolute then [] else dir)
              (linkSteps target ++ rest)
  -- one number, so that a way can be followed by computation
  termination_by links * t.longestLink + steps.length
  decreasing_by
    · simp
    · simp
    · simp
    · have hl := length_linkSteps_le _ht
      rw [Nat.succ_mul, List.length_append, List.length_cons]
      omega

def resolve (t : FileTree) (reach : Reach) (p : Path) : Except Errno Location :=
  if longestPath < p.text.utf8ByteSize then .error .nameTooLong
  else descend t reach mostLinks (if p.isAbsolute then [] else t.workDir) p.parts

def status? (t : FileTree) (p : Path) : Option Entry :=
  match t.resolve .target p with
  | .ok l => t.get? l
  | .error _ => none

/-- What a path leads to when that is asked for: nothing at the end of a broken way or of one that
cannot be named, but a name that is too long is refused. -/
def status (t : FileTree) (p : Path) : Except FileError (Option Entry) :=
  if p.hasNull then .ok none
  else
    match t.resolve .target p with
    | .ok l => .ok (t.get? l)
    | .error .nameTooLong => .error (.refused .nameTooLong p.text)
    | .error _ => .ok none

def exists? (t : FileTree) (p : Path) : Except FileError Bool := (t.status p).map Option.isSome

def isDir (t : FileTree) (p : Path) : Except FileError Bool := (t.status p).map (· == some .dir)

def isFile (t : FileTree) (p : Path) : Except FileError Bool :=
  (t.status p).map fun
    | some (.file _) => true
    | _ => false

/-- An operation on the tree; its changes stay when it fails. -/
abbrev Op (α : Type) := ExceptT FileError (StateM FileTree) α

def ask {α : Type} (question : FileTree → Except FileError α) : Op α := do
  match question (← get) with
  | .ok a => return a
  | .error e => throw e

def locate (reach : Reach) (p : Path) (refusal : Errno → FileError) : Op Location :=
  ask fun t => if p.hasNull then .error .nullInPath else (t.resolve reach p).mapError refusal

def makeDir (p : Path) : Op Unit := do
  let l ← locate .entry p (.refused · p.text)
  let t ← get
  if (t.get? l).isSome then throw (.refused .exists p.text) else set (t.put l .dir)

def makeDirUnless (existing : Bool) (p : Path) : Op Unit :=
  tryCatch (makeDir p) fun e => do
    match e with
    | .refused .noEntry _ | .nullInPath => throw e
    | _ =>
      if existing then
        if ← ask (·.isDir p) then pure () else throw e
      else throw e

def makeDirs (existing : Bool) (p : Path) : Op Unit :=
  tryCatch (makeDirUnless existing p) fun e => do
    match e with
    | .refused .noEntry _ =>
      if p.parts = [] then throw e
      else
        makeDirs true p.parent
        makeDirUnless existing p
    | _ => throw e
  termination_by p.parts.length
  decreasing_by
    have := List.length_pos_iff.2 ‹_›
    simp [Path.parent]
    omega

def readText (p : Path) (shown : String := p.text) : Op String := do
  let l ← locate .target p (.refused · shown)
  match (← get).get? l with
  | some (.file text) => pure text
  | some .dir => throw (.refused .isDirectory shown)
  | _ => throw (.refused .noEntry shown)

def writeText (p : Path) (text : String) (shown : String := p.text) : Op Unit := do
  let l ← locate .creation p (.refused · shown)
  let t ← get
  match t.get? l with
  | some .dir => throw (.refused .isDirectory shown)
  | _ => set (t.put l (.file text))

/-- A text with `added` written over it from an offset in bytes on; a gap is filled with zeros. -/
def overwritten (old : String) (offset : Nat) (added : String) : String :=
  if offset = old.utf8ByteSize then old ++ added
  else
    let bytes := old.toUTF8.data.toList
    let front := (bytes ++ List.replicate offset 0).take offset
    let all := front ++ added.toUTF8.data.toList ++ bytes.drop (offset + added.utf8ByteSize)
    (String.fromUTF8? ⟨all.toArray⟩).getD (old ++ added)

/-- Writes into a file at an offset; nothing happens where there is no file. -/
def writeAt (t : FileTree) (l : Location) (offset : Nat) (text : String) : FileTree :=
  match t.get? l with
  | some (.file old) => t.put l (.file (overwritten old offset text))
  | _ => t

/-- Copies a file to a path, or into it when it is a directory; links are followed. -/
def copyFile (source dest : Path) : Op Unit := do
  let t ← get
  let into := t.status? dest == some .dir
  let name := (Text.splitOn '/' source.text.toList).getLast?.getD []
  let dest' := if into then dest / String.ofList name else dest
  let shown := if into then dest.text ++ "/" ++ String.ofList name else dest.text
  if source.hasNull || dest'.hasNull then throw .nullInPath
  let place (p : Path) : Option Location :=
    match t.resolve .target p with
    | .ok l => if (t.get? l).isSome then some l else none
    | .error _ => none
  if (place source).isSome && place source == place dest' then
    throw (.sameFile source.text shown (!into))
  let text ← readText source
  tryCatch (writeText dest' text shown) fun e =>
    match e, t.status? dest' with
    | .refused .isDirectory _, none => throw (.noDirectory shown)
    | e, _ => throw e

/-- Removes a directory with all that is in it. What is in it goes first, and on the way to it by
then it must still be found by a name. -/
def removeTree (p : Path) : Op Unit := do
  let l ← locate .entry p (.refused · p.text)
  let t ← get
  match t.get? l with
  | none => throw (.refused .noEntry p.text)
  | some (.link _) => throw .clearingLink
  | some (.file _) => throw (.clearing .notDirectory p.text)
  | some .dir =>
    set (t.clear l)
    let l ← locate .entry p (.refused · p.text)
    match p.parts.getLast? with
    | none => throw (.refused .invalid p.text)
    | some ".." => throw (.refused .notEmpty p.text)
    | some _ => modify (·.erase l)

def makeLink (target : String) (link : Path) : Op Unit := do
  let refusal (e : Errno) : FileError := .linking e target link.text
  if target.toList.contains Path.null || link.hasNull then throw .nullInPath
  if target = "" then throw (refusal .noEntry)
  if longestPath < target.utf8ByteSize then throw (refusal .nameTooLong)
  let l ← locate .entry link refusal
  let t ← get
  if (t.get? l).isSome then throw (refusal .exists) else set (t.put l (.link target))

/-- The entries below the working directory by their paths from it, in the order of the paths. -/
def listing (t : FileTree) : List (String × Entry) :=
  let below := t.entries.filterMap fun x =>
    if t.workDir.isPrefixOf x.1 && x.1 ≠ t.workDir then
      some (String.intercalate "/" (x.1.drop t.workDir.length), x.2)
    else none
  below.mergeSort (·.1 ≤ ·.1)

end FileTree

end BundleWright
