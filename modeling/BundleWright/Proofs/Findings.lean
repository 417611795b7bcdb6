import BundleWright.Collection
import BundleWright.Proofs.Graph.Settled
/-!
What a walk finds. Main statements: what an edge brings does not hang on what was found before it,
and the findings of a walk are those of the edges it shows, put together in order.
-/
namespace BundleWright

def BundleModule.setsSystemApart (b : BundleModule) : Bool :=
  !b.properties.ignoreSystemLibrarySpecialCase.getD false

namespace Node

def builtFile? (n : Node) : Option Path :=
  match n.kind with
  | .library l => some l.outputFile
  | .binary b => some b.outputFile
  | .script c => some c.outputFile
  | .java j => j.dexJar
  | .prebuilt p => some p.outputFile
  | _ => none

def aliases (n : Node) : List String :=
  match n.kind with
  | .binary b => b.symlinks
  | _ => []

def Fits (setSystemApart : Bool) (n : Node) : Prop :=
  (∀ d ∈ InstallDir.ofNode? n setSystemApart, Path.isRelativeSubdir d = true) ∧
    ∀ s ∈ n.aliases, Path.isPlainName s = true

/-- What a node offers to a bundle: its file, the directory for it, and the links beside it. -/
structure Offers (setSystemApart : Bool) (n : Node) (p : Path) (d : String) (links : List String) :
    Prop where
  builtFile : n.builtFile? = some p
  installDir : InstallDir.ofNode? n setSystemApart = some d
  aliases : n.aliases = links

section Offers

variable {setSystemApart : Bool} {n : Node}

theorem offers_library {l : NativeLibrary} (h : n.kind = .library l) :
    n.Offers setSystemApart l.outputFile
      (InstallDir.library n.name n.target l.relativeInstallPath setSystemApart) [] := by
  constructor <;> simp [builtFile?, InstallDir.ofNode?, Node.aliases, h]

theorem offers_binary {x : NativeBinary} (h : n.kind = .binary x) :
    n.Offers setSystemApart x.outputFile InstallDir.binary x.symlinks := by
  constructor <;> simp [builtFile?, InstallDir.ofNode?, Node.aliases, h]

theorem offers_script {c : Script} (h : n.kind = .script c) :
    n.Offers setSystemApart c.outputFile (InstallDir.script c.subDir) [] := by
  constructor <;> simp [builtFile?, InstallDir.ofNode?, Node.aliases, h]

theorem offers_java {j : JavaLibrary} {jar : Path} (h : n.kind = .java j)
    (hj : j.dexJar = some jar) :
    n.Offers setSystemApart jar InstallDir.java [] := by
  constructor <;> simp [builtFile?, InstallDir.ofNode?, Node.aliases, h, hj]

theorem offers_prebuilt {p : Prebuilt} (h : n.kind = .prebuilt p) :
    n.Offers setSystemApart p.outputFile (InstallDir.prebuilt p.subDir) [] := by
  constructor <;> simp [builtFile?, InstallDir.ofNode?, Node.aliases, h]

theorem Offers.fits_iff {p : Path} {d : String} {links : List String}
    (h : n.Offers setSystemApart p d links) :
    n.Fits setSystemApart ↔
      Path.isRelativeSubdir d = true ∧ ∀ s ∈ links, Path.isPlainName s = true := by
  simp [Fits, h.installDir, h.aliases]

end Offers

end Node

namespace PackagedFile

variable {p : Path} {m d : String} {k : FileClass} {links : List String} {o : Option NodeKey}
  {f : PackagedFile}

theorem make_eq_ok (h : make p m d k links o = .ok f) :
    f.builtFile = p ∧ f.moduleName = m ∧ f.installDir = d ∧ f.symlinks = links ∧ f.owner = o := by
  unfold make at h
  split at h
  · split at h
    · cases h
      exact ⟨rfl, rfl, rfl, rfl, rfl⟩
    · cases h
  · cases h

theorem exists_make_iff :
    (∃ f, make p m d k links o = .ok f) ↔
      Path.isRelativeSubdir d = true ∧ ∀ s ∈ links, Path.isPlainName s = true := by
  constructor
  · rintro ⟨f, h⟩
    obtain ⟨_, _, hd, hl, _⟩ := make_eq_ok h
    exact ⟨hd ▸ f.inside, hl ▸ f.plain⟩
  · rintro ⟨hd, hl⟩
    have hf : links.find? (!Path.isPlainName ·) = none := by simpa using hl
    unfold make
    rw [dif_pos hd]
    split
    · exact ⟨_, rfl⟩
    · next s hs => rw [hf] at hs; cases hs

/-- Whether a file is the file of a node, in its place. -/
structure IsOf (setSystemApart : Bool) (n : Node) (f : PackagedFile) : Prop where
  offers : n.Offers setSystemApart f.builtFile f.installDir f.symlinks
  owner : f.owner = some n.key

end PackagedFile

namespace Findings

/-- What is found later comes behind what was found before; its key and certificate count. -/
def append (a b : Findings) : Findings where
  files := a.files ++ b.files
  errors := a.errors ++ b.errors
  keyFile := b.keyFile.or a.keyFile
  publicKeyFile := b.publicKeyFile.or a.publicKeyFile
  certificate := b.certificate.or a.certificate

theorem append_empty (s : Findings) : s.append {} = s := by simp [append]

section Add

variable (s : Findings) (b : BundleModule) (tag : Tag) (n : Node) (p : Path) (d : String)
  (k : FileClass) (links : List String)

theorem add_append :
    s.add b tag n p d k links =
      ((add {} b tag n p d k links).1, s.append (add {} b tag n p d k links).2) := by
  unfold add
  split <;> simp [append, report]

theorem addLibrary_append (l : NativeLibrary) :
    s.addLibrary b n l = ((addLibrary {} b n l).1, s.append (addLibrary {} b n l).2) :=
  add_append ..

theorem direct_append (settings : Settings) :
    direct settings b s tag n =
      ((direct settings b {} tag n).1, s.append (direct settings b {} tag n).2) := by
  unfold direct
  split
  · exact addLibrary_append ..
  · split
    · exact add_append ..
    · rw [append_empty]
  · rw [add_append]
  · split
    · simp [append, report]
    · rw [add_append]
  · exact add_append ..
  · split <;> simp [append]
  · simp [append]
  · rw [append_empty]
  · simp [append, report]

theorem indirect_append :
    indirect b s n = ((indirect b {} n).1, s.append (indirect b {} n).2) := by
  unfold indirect
  split
  · split
    · exact addLibrary_append ..
    · rw [append_empty]
  · rw [append_empty]

end Add

section Direct

variable {settings : Settings} {b : BundleModule} {n : Node} (s : Findings)

theorem direct_library {l : NativeLibrary} (h : n.kind = .library l) :
    direct settings b s .sharedLib n = s.addLibrary b n l := by
  unfold direct
  simp only [h]

theorem direct_binary {x : NativeBinary} (h : n.kind = .binary x) (hn : n.target.native = true) :
    direct settings b s .executable n =
      s.add b .executable n x.outputFile InstallDir.binary .nativeExecutable x.symlinks := by
  unfold direct
  simp only [h, hn, ite_true]

theorem direct_translated {x : NativeBinary} (h : n.kind = .binary x)
    (hn : n.target.native = false) : direct settings b s .executable n = (true, s) := by
  unfold direct
  simp only [h, hn, Bool.false_eq_true, ite_false]

theorem direct_script {c : Script} (h : n.kind = .script c) :
    direct settings b s .executable n =
      (false, (s.add b .executable n c.outputFile (InstallDir.script c.subDir) .shBinary []).2) := by
  unfold direct
  simp only [h]

theorem direct_compiled {j : JavaLibrary} {jar : Path} (h : n.kind = .java j)
    (hj : j.dexJar = some jar) :
    direct settings b s .javaLib n =
      (true, (s.add b .javaLib n jar InstallDir.java .javaSharedLib []).2) := by
  unfold direct
  simp only [h, hj]

theorem direct_uncompiled {j : JavaLibrary} (h : n.kind = .java j) (hj : j.dexJar = none) :
    direct settings b s .javaLib n = (true, s.report b (.notCompiled n.name)) := by
  unfold direct
  simp only [h, hj]

theorem direct_prebuilt {p : Prebuilt} (h : n.kind = .prebuilt p) :
    direct settings b s .prebuilt n =
      s.add b .prebuilt n p.outputFile (InstallDir.prebuilt p.subDir) .etc [] := by
  unfold direct
  simp only [h]

end Direct

section Edge

variable (g : ModuleGraph) (settings : Settings) (b : BundleModule)

def opens (e : Edge) : Bool := (visit g settings b {} e).1

def note (e : Edge) : Findings := (visit g settings b {} e).2

theorem visit_append (s : Findings) (e : Edge) :
    visit g settings b s e = (opens g settings b e, s.append (note g settings b e)) := by
  unfold opens note visit
  split
  · rw [append_empty]
  · split
    · exact direct_append ..
    · exact indirect_append ..

section Congr

variable {g' : ModuleGraph} (hm : g'.members = g.members)
include hm

theorem visit_congr : visit g' settings b = visit g settings b := by
  funext s e
  rw [visit, visit, ModuleGraph.node?_congr hm]

theorem opens_congr : opens g' settings b = opens g settings b := by
  funext e
  rw [opens, opens, visit_congr g settings b hm]

theorem note_congr : note g' settings b = note g settings b := by
  funext e
  rw [note, note, visit_congr g settings b hm]

theorem ofBundle_congr (he : g'.edges = g.edges) :
    ofBundle g' settings b = ofBundle g settings b := by
  rw [ofBundle, ofBundle, visit_congr g settings b hm, ModuleGraph.walk_congr hm he]

end Congr

def edges : List Edge := g.shown b.id (opens g settings b)

theorem ofBundle_eq :
    ofBundle g settings b = ((edges g settings b).map (note g settings b)).foldl append {} := by
  have hv (s : Findings) (e : Edge) : (visit g settings b s e).1 = opens g settings b e := by
    rw [visit_append]
  rw [ofBundle, ModuleGraph.walk_eq_foldl_shown hv, List.foldl_map, edges]
  congr 1
  funext s e
  rw [visit_append]

end Edge

theorem files_foldl_append (l : List Findings) (s : Findings) :
    (l.foldl append s).files = s.files ++ l.flatMap (·.files) := by
  induction l generalizing s with
  | nil => simp
  | cons a l ih => simp [ih, append]

theorem errors_foldl_append (l : List Findings) (s : Findings) :
    (l.foldl append s).errors = s.errors ++ l.flatMap (·.errors) := by
  induction l generalizing s with
  | nil => simp
  | cons a l ih => simp [ih, append]

end Findings

end BundleWright
