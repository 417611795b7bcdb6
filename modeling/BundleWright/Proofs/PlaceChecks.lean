import BundleWright.Proofs.Answered
import BundleWright.Proofs.Construction
/-!
Where a path is checked twice. Main statement: what a declaration may say about the place of a file
is enough for the check of the whole place, so that collecting files never reports a place, and a
direct dependency that its property accepts brings its file.
-/
namespace BundleWright

open BundleWright.Path

def PropertyError.OfPlace (e : PropertyError) : Prop :=
  ∃ tag name fault, e.problem = .misplaced tag name fault

inductive BringsNone : Tag → Node → Prop
  | translated {n : Node} {x : NativeBinary} : n.kind = .binary x → n.target.native = false →
      BringsNone .executable n
  | key {n : Node} {k : SigningKey} : n.kind = .key k → BringsNone .key n
  | certificate {n : Node} {c : Certificate} : n.kind = .certificate c → BringsNone .certificate n
  | moduleDep {n : Node} : BringsNone .moduleDep n

/-- The mistakes that a direct dependency can be: of the wrong kind, or not compiled. -/
def Mistaken (tag : Tag) (n : Node) (p : Problem) : Prop :=
  p = .wrongKind tag n.name ∨ p = .notCompiled n.name

namespace Declaration

def area? (t : Target) : Declaration → Option String
  | .library _ => some (if t.is64bit then "lib64" else "lib")
  | .binary _ | .script _ => some "bin"
  | .java _ => some "javalib"
  | .prebuilt _ => some "etc"
  | _ => none

def subDirectory : Declaration → String
  | .library d => d.relativeInstallPath.getD ""
  | .script d => d.subDir.getD ""
  | .prebuilt d => d.subDir.getD ""
  | _ => ""

def below (t : Target) (setSystemApart : Bool) : Declaration → List String
  | .library d => (if t.native then [] else [t.arch]) ++
      if InstallDir.isApart d.name setSystemApart then [InstallDir.systemLibrariesDir] else []
  | _ => []

variable {d : Declaration} {known : List BundleDefaults} {s : Settings} {dir : Path} {n : Node}
  {setSystemApart : Bool}

theorem parts_arch {t : Target} (h : t ∈ s.targetList) : (ofString t.arch).parts = [t.arch] := by
  have hword (a : Arch) : (ofString a.word).parts = [a.word] := by cases a <;> decide +kernel
  rcases List.mem_append.1 h with h | h
  all_goals
    obtain ⟨a, _, rfl⟩ := List.mem_map.1 h
    exact hword a

theorem parts_sub {area sub : String} (ha : (ofString area).parts = [area])
    (hs : isRelativeSubdir sub = true) :
    (ofString (joinDirs [area, sub])).parts = area :: (ofString sub).parts := by
  rw [parts_joinDirs (isRelativeSubdir_iff.1 hs).1, ha]
  rfl

theorem parts_of_declares (hk : d.Keeps) (h : Declares known s dir d n) {place : String}
    (hp : InstallDir.ofNode? n setSystemApart = some place) :
    ∃ area, d.area? n.target = some area ∧ (ofString place).parts =
      area :: (ofString d.subDirectory).parts ++ d.below n.target setSystemApart := by
  have hfits := (fits_of_declares hk h setSystemApart).1 place hp
  cases h with
  | library ht _ =>
    cases hp
    refine ⟨_, rfl, (InstallDir.parts_library hfits).trans ?_⟩
    simp only [LibraryDecl.node, InstallDir.libraryRoot, subDirectory, below, parts_arch ht,
      List.append_assoc]
    rfl
  | binary _ _ =>
    cases hp
    exact ⟨_, rfl, show (ofString "bin").parts = "bin" :: (ofString "").parts ++ [] by
      decide +kernel⟩
  | script _ =>
    cases hp
    refine ⟨_, rfl, (parts_sub (by decide +kernel) (isRelativeSubdir_getD hk.2)).trans ?_⟩
    exact (List.append_nil _).symm
  | java =>
    cases hp
    exact ⟨_, rfl, show (ofString "javalib").parts = "javalib" :: (ofString "").parts ++ [] by
      decide +kernel⟩
  | prebuilt _ =>
    cases hp
    refine ⟨_, rfl, (parts_sub (by decide +kernel) (isRelativeSubdir_getD hk.2)).trans ?_⟩
    exact (List.append_nil _).symm
  | _ => cases hp

end Declaration

namespace Findings

variable {g : ModuleGraph} {s : Settings} {b : BundleModule} {tag : Tag} {n : Node} {p : Path}
  {d : String} {k : FileClass} {links : List String} {x : PropertyError} {e : Edge}

/-- What a fitting node offers is added without a report. -/
theorem add_of_fits (ho : n.Offers b.setsSystemApart p d links) (hf : n.Fits b.setsSystemApart)
    (found : Findings) :
    (found.add b tag n p d k links).1 = true ∧
      (found.add b tag n p d k links).2.errors = found.errors := by
  obtain ⟨f, hm⟩ := (PackagedFile.exists_make_iff (p := p) (m := n.name) (k := k)
    (o := some n.key)).2 (ho.fits_iff.1 hf)
  rw [add, hm]
  exact ⟨rfl, rfl⟩

theorem addLibrary_of_fits {l : NativeLibrary} (hk : n.kind = .library l)
    (hf : n.Fits b.setsSystemApart) (found : Findings) :
    (found.addLibrary b n l).2.errors = found.errors :=
  (add_of_fits (Node.offers_library hk) hf found).2

theorem mistaken_of_mem_direct (hf : n.Fits b.setsSystemApart)
    (hx : x ∈ (direct s b {} tag n).2.errors) : Mistaken tag n x.problem := by
  unfold direct at hx
  split at hx
  · next l hk =>
    rw [addLibrary_of_fits hk hf] at hx
    cases hx
  · next y hk =>
    split at hx
    · rw [(add_of_fits (Node.offers_binary hk) hf {}).2] at hx
      cases hx
    · cases hx
  · next c hk =>
    rw [(add_of_fits (Node.offers_script hk) hf {}).2] at hx
    cases hx
  · next j hk =>
    split at hx
    · obtain rfl := List.mem_singleton.1 hx
      exact .inr rfl
    · next jar hj =>
      rw [(add_of_fits (Node.offers_java hk hj) hf {}).2] at hx
      cases hx
  · next q hk =>
    rw [(add_of_fits (Node.offers_prebuilt hk) hf {}).2] at hx
    cases hx
  · cases hx
  · cases hx
  · cases hx
  · obtain rfl := List.mem_singleton.1 hx
    exact .inl rfl

theorem errors_indirect (hf : n.Fits b.setsSystemApart) : (indirect b {} n).2.errors = [] := by
  unfold indirect
  split
  · next l hk =>
    split
    · exact addLibrary_of_fits hk hf {}
    · rfl
  · rfl

theorem direct_cases (s : Settings) (b : BundleModule) (tag : Tag) (n : Node) :
    (∃ p, Brings tag n p) ∨ BringsNone tag n ∨
      ∃ p, Mistaken tag n p ∧ (⟨b.name, p⟩ : PropertyError) ∈ (direct s b {} tag n).2.errors := by
  unfold direct
  split
  · next l hk => exact .inl ⟨_, .library hk⟩
  · next y hk =>
    split
    · next hn => exact .inl ⟨_, .binary hk hn⟩
    · next hn => exact .inr (.inl (.translated hk (by simpa using hn)))
  · next c hk => exact .inl ⟨_, .script hk⟩
  · next j hk =>
    split
    · exact .inr (.inr ⟨_, .inr rfl, .head _⟩)
    · next jar hj => exact .inl ⟨_, .java hk hj⟩
  · next q hk => exact .inl ⟨_, .prebuilt hk⟩
  · next k hk => exact .inr (.inl (.key hk))
  · next c hk => exact .inr (.inl (.certificate hk))
  · exact .inr (.inl .moduleDep)
  · exact .inr (.inr ⟨_, .inl rfl, .head _⟩)

/-- In a graph of fitting nodes a walk reports mistakes alone. -/
theorem mistaken_of_mem_errors (hfits : ∀ m ∈ g.members, m.node.Fits b.setsSystemApart)
    (hx : x ∈ (ofBundle g s b).errors) : ∃ tag n, Mistaken tag n x.problem := by
  obtain ⟨e, _, hx⟩ := mem_errors_ofBundle.1 hx
  cases hn : g.node? e.child with
  | none =>
    rw [note_of_node?_eq_none hn] at hx
    cases hx
  | some n =>
    have hf := hfits _ (ModuleGraph.mem_of_node? hn)
    by_cases hp : e.parent = b.id
    · rw [note, visit_direct s hp hn] at hx
      exact ⟨e.tag, n, mistaken_of_mem_direct hf hx⟩
    · rw [note, visit_indirect s hp hn, errors_indirect hf] at hx
      cases hx

theorem exists_file_of_brings (hg : g.Settled) (he : e ∈ g.dependencies b.id)
    (hn : g.node? e.child = some n) (hf : n.Fits b.setsSystemApart) (h : Brings e.tag n p) :
    ∃ f ∈ (ofBundle g s b).files, f.builtFile = p ∧ f.owner = some n.key := by
  have hp := (hg.mem_dependencies_iff.1 he).2
  obtain ⟨f, hmem, hfile⟩ := exists_mem_direct s h hf
  refine ⟨f, mem_files_ofBundle.2 ⟨e, mem_edges_of_mem_dependencies hg s he, ?_⟩, hfile,
    (mem_files_direct hmem).2.owner⟩
  rwa [note, visit_direct s hp hn]

end Findings

theorem Mistaken.not_ofPlace {tag : Tag} {n : Node} {x : PropertyError}
    (h : Mistaken tag n x.problem) : ¬x.OfPlace := by
  rintro ⟨_, _, _, he⟩
  rcases h with h | h <;> cases he.symm.trans h

theorem Request.not_ofPlace_of_report? {g : ModuleGraph} {b : BundleModule} {r : Request}
    {x : PropertyError} (h : r.report? g b = some x) : ¬x.OfPlace := by
  rintro ⟨_, _, _, he⟩
  unfold report? at h
  split at h
  · cases h
    cases he
  · cases h

theorem ModuleGraph.mem_errors_of_generate {g : ModuleGraph} {b : BundleModule} {s : Settings}
    {tree : FileTree} {o : Outcome} {x : PropertyError} (h : g.generate b s tree = .ok o)
    (hx : x ∈ o.errors) : x ∈ (Findings.ofBundle g s b).errors := by
  cases hres : o.result with
  | error e =>
    unfold generate at h
    split at h
    · cases h
      cases hres
    · cases h
      cases hx
    · cases h
  | ok plan =>
    obtain ⟨_, herr, c, hc, hplan⟩ := generate_eq_ok h hres
    rwa [herr, (BundleModule.plan_eq_ok hplan).2.1, (Collection.ofBundle_eq_ok hc).2] at hx

namespace Workspace

open Declaration

variable {ds : List Declaration} {s₀ s : Settings} {dir : Path} {w w' : Workspace}
  {tree : FileTree} {names : List String} {a : Assembly} {o : Outcome} {x : PropertyError}

theorem mem_errors_of_outcome (hw : w.Sound) (h : w.assemble s tree names = (w', .ok a))
    (ho : o ∈ a.outcomes) (hx : x ∈ o.errors) :
    (∃ r, Request.report? w.graph o.bundle r = some x) ∨
      x ∈ (Findings.ofBundle w'.graph s o.bundle).errors := by
  obtain ⟨selected, hsel, _, hos⟩ := assemble_eq_ok h
  unfold outcomes at hos
  split at hos
  · cases hos
  · obtain ⟨b, hb, hout⟩ := exists_of_mem_mapM (exists_of_mapError_eq_ok hos) ho
    rw [outcome_eq hw (mem_of_select hsel hb)] at hout
    cases hr : w.graph.bundleReport b s with
    | error e =>
      simp only [outcomeOf, hr] at hout
      cases hout
      cases hx
    | ok reported =>
      simp only [outcomeOf, hr] at hout
      obtain ⟨o', hgen, rfl⟩ := exists_of_map_eq_ok hout
      have hbundle : o'.bundle = b := ModuleGraph.bundle_of_generate hgen
      subst hbundle
      rcases List.mem_append.1 hx with hx | hx
      · obtain ⟨l, hl, hx⟩ := List.mem_flatten.1 hx
        rw [(List.mem_replicate.1 hl).2, ModuleGraph.eq_of_bundleReport hr] at hx
        obtain ⟨r, _, hr⟩ := List.mem_filterMap.1 hx
        exact .inl ⟨r, hr⟩
      · exact .inr (ModuleGraph.mem_errors_of_generate hgen hx)

structure Placed (ds : List Declaration) (w : Workspace) : Prop where
  place : ∀ d ∈ ds, ∀ n ∈ w.graph.nodes, n.name = d.name → ∀ setSystemApart place,
    InstallDir.ofNode? n setSystemApart = some place → isRelativeSubdir place = true ∧
      ∃ area, d.area? n.target = some area ∧ (ofString place).parts =
        area :: (ofString d.subDirectory).parts ++ d.below n.target setSystemApart
  links : ∀ n ∈ w.graph.nodes, ∀ link ∈ n.aliases, isPlainName link = true
  /-- What a node offers to a bundle is added to what has been found, and nothing is reported. -/
  added : ∀ n ∈ w.graph.nodes, ∀ (found : Findings) (b : BundleModule) tag file place k links,
    n.Offers b.setsSystemApart file place links →
      (found.add b tag n file place k links).1 = true ∧
        (found.add b tag n file place k links).2.errors = found.errors
  /-- So it is with any edges between the nodes. -/
  collected : ∀ g : ModuleGraph, g.Settled → g.members = w.graph.members → ∀ s b,
    (∀ x ∈ (Findings.ofBundle g s b).errors, ¬x.OfPlace) ∧
      ∀ e ∈ g.dependencies b.id, ∀ n, g.node? e.child = some n →
        (∃ p, Brings e.tag n p ∧ ∃ f ∈ (Findings.ofBundle g s b).files,
          f.builtFile = p ∧ f.owner = some n.key) ∨
        BringsNone e.tag n ∨
        ∃ p, Mistaken e.tag n p ∧ (⟨b.name, p⟩ : PropertyError) ∈
          (Findings.ofBundle g s b).errors
  reported : ∀ s tree names w' a, w.assemble s tree names = (w', .ok a) →
    ∀ o ∈ a.outcomes, ∀ x ∈ o.errors, ¬x.OfPlace

/-- What a document declares has a place in bundles, and no file is refused for its place. -/
theorem placed_of_document {doc : Datum} (hd : readDocument doc = .sound ds)
    (hw : ofDeclarations ds s₀ dir = .ok w) : Placed ds w := by
  have hkeeps := keeps_of_readDocument hd
  have hs := sound_of_ofDeclarations hkeeps hw
  have hfits {n : Node} (hn : n ∈ w.graph.nodes) (setSystemApart : Bool) :
      n.Fits setSystemApart := by
    obtain ⟨m, hm, rfl⟩ := List.mem_map.1 hn
    exact hs.fits m hm setSystemApart
  have hmistaken {g : ModuleGraph} (hm : g.members = w.graph.members) {s : Settings}
      {b : BundleModule} {x : PropertyError} (hx : x ∈ (Findings.ofBundle g s b).errors) :
      ¬x.OfPlace := by
    obtain ⟨_, _, h⟩ := Findings.mistaken_of_mem_errors (fun m hmem => hs.fits m (hm ▸ hmem) _) hx
    exact h.not_ofPlace
  exact {
    place := by
      intro d hmem n hn hname setSystemApart place hplace
      have hdecl := declares_of_name_eq hw hmem hn hname
      exact ⟨(hfits hn setSystemApart).1 place hplace,
        parts_of_declares (hkeeps d hmem) hdecl hplace⟩
    links := fun n hn => (hfits hn true).2
    added := fun n hn found b tag file place k links ho =>
      Findings.add_of_fits ho (hfits hn _) found
    collected := by
      intro g hg hm s b
      refine ⟨fun x hx => hmistaken hm hx, fun e he n hn => ?_⟩
      have hf : n.Fits b.setsSystemApart := hs.fits _ (hm ▸ ModuleGraph.mem_of_node? hn) _
      rcases Findings.direct_cases s b e.tag n with ⟨p, h⟩ | h | ⟨p, h, hx⟩
      · exact .inl ⟨p, h, Findings.exists_file_of_brings hg he hn hf h⟩
      · exact .inr (.inl h)
      · exact .inr (.inr ⟨p, h, Findings.mem_errors_of_direct hg he hn hx⟩)
    reported := by
      intro s tree names w' a ha o ho x hx
      have hg := assembled_of_assemble hs ha
      rcases mem_errors_of_outcome hs ha ho hx with ⟨r, hr⟩ | hx
      · exact Request.not_ofPlace_of_report? hr
      · exact hmistaken hg.members hx }

end Workspace

def tuckedAway : Datum := .obj [("modules", .arr [
  .obj [("type", .str "cc_library"), ("name", .str "libc"),
    ("relative_install_path", .str "hw//./x")],
  .obj [("type", .str "sh_binary"), ("name", .str "run"), ("src", .str "run.sh"),
    ("sub_dir", .str "./tools/")]])]

def translatingSettings : Settings where
  sourceRoot := .here
  outDir := .here
  installRoot := .here
  targets := [.x86_64]
  nativeBridgeTargets := [.arm64]

theorem Workspace.placed_of_document_tuckedAway :
    ∃ ds w, Declaration.readDocument tuckedAway = .sound ds ∧
      ofDeclarations ds translatingSettings .here = .ok w ∧ Placed ds w ∧
      w.graph.nodes.map (InstallDir.ofNode? · true) =
        [some "lib64/hw/x/bionic", some "lib64/hw/x/arm64/bionic", some "bin/tools",
          some "bin/tools"] := by
  have h : ∃ w ∈ (ofDocument? tuckedAway translatingSettings .here).toList,
      w.graph.nodes.map (InstallDir.ofNode? · true) =
        [some "lib64/hw/x/bionic", some "lib64/hw/x/arm64/bionic", some "bin/tools",
          some "bin/tools"] := by
    decide +kernel
  obtain ⟨w, hw, hplaces⟩ := h
  obtain ⟨ds, hd, hw⟩ := ofDocument?_eq_some.1 (Option.mem_toList.1 hw)
  exact ⟨ds, w, hd, hw, placed_of_document hd hw, hplaces⟩

end BundleWright
