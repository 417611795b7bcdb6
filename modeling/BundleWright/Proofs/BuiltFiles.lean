import BundleWright.Proofs.Containment
/-!
Which nodes are built to one file. Main statement: the built files of different nodes are different
unless one of them is declared with an absolute path, or belongs to the module named `.`, and leads
to the other; nothing else is lost when repeated files are dropped.
-/
namespace BundleWright

open BundleWright.Path

namespace Declaration

def file? : Declaration → Option Path
  | .library d => some (.ofString ((Bundle.given d.stem).getD d.name ++ ".so"))
  | .binary d => some (.ofString ((Bundle.given d.stem).getD d.name))
  | .script d => some (builtName d.filename d.src)
  | .prebuilt d => some (builtName d.filename d.src)
  | .java d => if d.compiles then some (.ofString ("dex/" ++ d.name ++ ".jar")) else none
  | .key _ | .certificate _ | .bundle _ | .defaults _ => none

def fileNamed? (ds : List Declaration) (name : String) : Option Path :=
  (ds.find? (·.name = name)).bind file?

variable {ds : List Declaration} {d : Declaration}

theorem fileNamed?_eq (hn : (ds.map Declaration.name).Nodup) (hd : d ∈ ds) :
    fileNamed? ds d.name = d.file? := by
  have hf : ds.find? (·.name = d.name) = some d := by
    cases hf : ds.find? (·.name = d.name) with
    | none => simpa using List.find?_eq_none.1 hf d hd
    | some e =>
      have he : e.name = d.name := by simpa using List.find?_some hf
      rw [List.inj_on_of_nodup_map hn (List.mem_of_find?_eq_some hf) hd he]
  rw [fileNamed?, hf, Option.bind_some]

theorem exists_of_fileNamed? {name : String} {q : Path} (h : fileNamed? ds name = some q) :
    ∃ d ∈ ds, d.name = name ∧ d.file? = some q := by
  obtain ⟨d, hf, hq⟩ := Option.bind_eq_some_iff.1 h
  exact ⟨d, List.mem_of_find?_eq_some hf, by simpa using List.find?_some hf, hq⟩

namespace Declares

variable {known : List BundleDefaults} {s : Settings} {dir : Path} {n : Node}

theorem builtFile?_eq (h : Declares known s dir d n) :
    n.builtFile? = d.file?.map (n.buildPath s) := by
  cases h with
  | java =>
    simp only [file?, JavaDecl.node, Node.builtFile?]
    split <;> rfl
  | _ => rfl

theorem isComponent_name (hk : d.Keeps) (h : Declares known s dir d n) (hd : n.name ≠ ".") :
    IsComponent n.name := by
  refine ⟨fun he => ?_, fun he => hd (String.toList_inj.1 he), h.not_mem_name hk⟩
  have hm : matchesName n.name.toList = true := by
    rw [h.name_eq]
    cases h with
    | library _ _ => exact hk.1
    | binary _ _ => exact hk.1
    | script _ => exact hk.1
    | prebuilt _ => exact hk.1
    | _ => exact hk
  simp [he, matchesName] at hm

end Declares

end Declaration

namespace Node

/-- How a file declared as `q` leads from one node to the file of another, declared as `q'`: it is
an absolute path, or the directory of the node is no deeper than that of the other module, because
a single dot is no component of a path. -/
inductive LandsOn (s : Settings) (n : Node) (q : Path) (n' : Node) (q' : Path) : Prop
  | absolute : q.root ≠ .none → q = n'.buildPath s q' → LandsOn s n q n' q'
  | dot : n.name = "." → n'.name = n.variantId → q.root = .none → q'.root = .none →
      q.parts = n'.variantId :: q'.parts → LandsOn s n q n' q'

structure Shelved (n : Node) : Prop where
  name : n.name ≠ "." → IsComponent n.name
  variant : isPlainName n.variantId = true

variable {n n' : Node} {s : Settings} {q q' : Path}

def shelf (n : Node) : List String := if n.name = "." then [n.variantId] else [n.name, n.variantId]

theorem Shelved.buildPath_eq (h : n.Shelved) (hq : q.root = .none) :
    (n.buildPath s q).root = s.outDir.root ∧
      (n.buildPath s q).parts = s.outDir.parts ++ n.shelf ++ q.parts := by
  have hv := isComponent_of_isPlainName h.variant
  have hn : (s.outDir / n.name : Path).root = s.outDir.root ∧ (s.outDir / n.name : Path).parts =
      s.outDir.parts ++ (if n.name = "." then [] else [n.name]) := by
    by_cases hd : n.name = "."
    · have hdot : ofString "." = here := by decide +kernel
      have he : (s.outDir / n.name : Path) = s.outDir / here := by rw [hd, ← hdot]; rfl
      rw [he, if_pos hd]
      exact ⟨join_root_of_relative rfl, join_parts_of_relative rfl⟩
    · rw [if_neg hd]
      exact ⟨root_div_component (h.name hd), parts_div_component (h.name hd)⟩
  rw [buildPath, join_root_of_relative hq, join_parts_of_relative hq, root_div_component hv,
    parts_div_component hv, hn.1, hn.2, shelf]
  refine ⟨rfl, ?_⟩
  split <;> simp

theorem Shelved.relative_eq_iff (h : n.Shelved) (h' : n'.Shelved) (hq : q.root = .none)
    (hq' : q'.root = .none) :
    n.buildPath s q = n'.buildPath s q' ↔ n.shelf ++ q.parts = n'.shelf ++ q'.parts := by
  obtain ⟨hr, hp⟩ := h.buildPath_eq (s := s) hq
  obtain ⟨hr', hp'⟩ := h'.buildPath_eq (s := s) hq'
  rw [ext_iff', hr, hr', hp, hp', List.append_assoc, List.append_assoc,
    List.append_cancel_left_eq]
  exact and_iff_right rfl

theorem LandsOn.buildPath_eq (h : n.Shelved) (h' : n'.Shelved) (hl : LandsOn s n q n' q') :
    n.buildPath s q = n'.buildPath s q' := by
  cases hl with
  | absolute hq he => rw [← he]; exact div_of_rooted hq
  | dot hn hname hq hq' hp =>
    have hv : n'.name ≠ "." := by
      rw [hname]
      rintro he
      have hplain := h.variant
      simp [he, isPlainName] at hplain
    rw [h.relative_eq_iff h' hq hq', shelf, shelf, if_pos hn, if_neg hv, hp, hname]
    simp

/-- Files of different nodes are one only if one of them leads to the other. -/
theorem buildPath_eq_iff (h : n.Shelved) (h' : n'.Shelved) (hne : n.key ≠ n'.key) :
    n.buildPath s q = n'.buildPath s q' ↔ LandsOn s n q n' q' ∨ LandsOn s n' q' n q := by
  refine ⟨fun he => ?_, ?_⟩
  · by_cases hq : q.root = .none
    · by_cases hq' : q'.root = .none
      · -- both are below the directory of their node, so these directories begin one another
        rw [h.relative_eq_iff h' hq hq'] at he
        unfold shelf at he
        split at he <;> split at he
        · next hn hn' =>
          obtain ⟨hv, _⟩ := List.cons.inj he
          exact absurd (by rw [key, key, hn, hn', hv]) hne
        · next hn _ =>
          obtain ⟨hv, hp⟩ := List.cons.inj he
          exact .inl (.dot hn hv.symm hq hq' hp)
        · next _ hn' =>
          obtain ⟨hv, hp⟩ := List.cons.inj he
          exact .inr (.dot hn' hv hq' hq hp.symm)
        · obtain ⟨hn, hp⟩ := List.cons.inj he
          obtain ⟨hv, _⟩ := List.cons.inj hp
          exact absurd (by rw [key, key, hn, hv]) hne
      · exact .inr (.absolute hq' (he.trans (div_of_rooted hq')).symm)
    · exact .inl (.absolute hq ((div_of_rooted hq).symm.trans he))
  · rintro (hl | hl)
    · exact hl.buildPath_eq h h'
    · exact (hl.buildPath_eq h' h).symm

end Node

/-- Whether a declaration keeps the files of its module in directories of their own: the module is
not named by a dot, and the path of its file is relative. -/
def Declaration.KeepsShelf (d : Declaration) : Prop := d.name ≠ "." ∧ ∀ q ∈ d.file?, q.root = .none

instance (d : Declaration) : Decidable d.KeepsShelf :=
  inferInstanceAs (Decidable (_ ∧ ∀ q ∈ d.file?, q.root = .none))

/-- Whether what two nodes are declared with leads from one to the file of the other. -/
def Node.Meet (ds : List Declaration) (s : Settings) (n n' : Node) : Prop :=
  ∃ q q', Declaration.fileNamed? ds n.name = some q ∧ Declaration.fileNamed? ds n'.name = some q' ∧
    (n.LandsOn s q n' q' ∨ n'.LandsOn s q' n q)

theorem Node.not_meet_of_keepsShelf {ds : List Declaration} (h : ∀ d ∈ ds, d.KeepsShelf)
    (s : Settings) (n n' : Node) : ¬n.Meet ds s n' := by
  have hland {n n' : Node} {q q' : Path} (hq : Declaration.fileNamed? ds n.name = some q) :
      ¬n.LandsOn s q n' q' := by
    obtain ⟨d, hd, hname, hf⟩ := Declaration.exists_of_fileNamed? hq
    rintro (⟨hr, _⟩ | ⟨hn, _⟩)
    · exact hr ((h d hd).2 q hf)
    · exact (h d hd).1 (hname.trans hn)
  rintro ⟨q, q', hq, hq', hl | hl⟩
  · exact hland hq hl
  · exact hland hq' hl

namespace Workspace

variable {doc : Datum} {ds : List Declaration} {s : Settings} {dir : Path} {w : Workspace}

section Built

variable (hw : ofDeclarations ds s dir = .ok w)
include hw

theorem exists_fileNamed? {m : Member} (hm : m ∈ w.graph.members) {p : Path}
    (hp : m.node.builtFile? = some p) :
    ∃ q, Declaration.fileNamed? ds m.node.name = some q ∧ p = m.node.buildPath s q := by
  obtain ⟨d, hd, known, hdecl⟩ := exists_declaration hw hm
  rw [hdecl.builtFile?_eq] at hp
  obtain ⟨q, hq, rfl⟩ := Option.map_eq_some_iff.1 hp
  refine ⟨q, ?_, rfl⟩
  rw [hdecl.name_eq, Declaration.fileNamed?_eq (ofDeclarations_eq_ok hw).1 hd, hq]

variable (hk : ∀ d ∈ ds, d.Keeps)
include hk

theorem shelved {m : Member} (hm : m ∈ w.graph.members) : m.node.Shelved := by
  obtain ⟨d, hd, known, hdecl⟩ := exists_declaration hw hm
  exact ⟨hdecl.isComponent_name (hk d hd), hdecl.isPlainName_variantId⟩

theorem key_ne {m m' : Member} (hm : m ∈ w.graph.members) (hm' : m' ∈ w.graph.members)
    (hne : m ≠ m') : m.node.key ≠ m'.node.key := by
  have hg := (sound_of_ofDeclarations hk hw).settled
  intro he
  rw [hg.key_eq m hm, hg.key_eq m' hm'] at he
  exact hne (List.inj_on_of_nodup_map hg.nodup hm hm' he)

theorem builtFile_eq_iff {m m' : Member} (hm : m ∈ w.graph.members) (hm' : m' ∈ w.graph.members)
    (hne : m ≠ m') {p p' : Path} (hp : m.node.builtFile? = some p)
    (hp' : m'.node.builtFile? = some p') : p = p' ↔ m.node.Meet ds s m'.node := by
  obtain ⟨q, hq, rfl⟩ := exists_fileNamed? hw hm hp
  obtain ⟨q', hq', rfl⟩ := exists_fileNamed? hw hm' hp'
  rw [Node.buildPath_eq_iff (shelved hw hk hm) (shelved hw hk hm') (key_ne hw hk hm hm' hne)]
  constructor
  · exact fun hl => ⟨q, q', hq, hq', hl⟩
  · rintro ⟨r, r', hr, hr', hl⟩
    cases hq.symm.trans hr
    cases hq'.symm.trans hr'
    exact hl

end Built

/-- Which nodes are built to one file: those of which the declared file of one leads to the file of
the other, hence none if all declarations keep their files in directories of their own. Dropping
repeated files loses nothing else: what is kept for a file is the file of its node, or of one that
it meets. -/
theorem one_file_iff_meet (hd : Declaration.readDocument doc = .sound ds)
    (hw : ofDeclarations ds s dir = .ok w) :
    (∀ m ∈ w.graph.members, ∀ m' ∈ w.graph.members, m ≠ m' →
      ∀ p ∈ m.node.builtFile?, ∀ p' ∈ m'.node.builtFile?, p = p' ↔ m.node.Meet ds s m'.node) ∧
    ((∀ d ∈ ds, d.KeepsShelf) → ∀ n n' : Node, ¬n.Meet ds s n') ∧
    ∀ (g : ModuleGraph) (b : BundleModule) (s' : Settings), g.members = w.graph.members →
      ∀ f ∈ (Findings.ofBundle g s' b).files,
        ∃ kept ∈ PackagedFile.dropRepeated (Findings.ofBundle g s' b).files,
          kept.builtFile = f.builtFile ∧ (kept.owner = f.owner ∨
            ∃ m ∈ w.graph.members, ∃ m' ∈ w.graph.members, f.owner = some m.id ∧
              kept.owner = some m'.id ∧ m.node.Meet ds s m'.node) := by
  have hk := Declaration.keeps_of_readDocument hd
  refine ⟨fun m hm m' hm' hne p hp p' hp' => builtFile_eq_iff hw hk hm hm' hne hp hp',
    fun h => Node.not_meet_of_keepsShelf h s, fun g b s' hg f hf => ?_⟩
  have hown {x : PackagedFile} (hx : x ∈ (Findings.ofBundle g s' b).files) :
      ∃ m ∈ w.graph.members, m.node.builtFile? = some x.builtFile ∧ x.owner = some m.id := by
    obtain ⟨e, _, n, hn, hof⟩ := Findings.exists_isOf_of_mem_files hx
    have hm := hg ▸ ModuleGraph.mem_of_node? hn
    have hkey := (sound_of_ofDeclarations hk hw).settled.key_eq _ hm
    exact ⟨_, hm, hof.offers.builtFile, hof.owner.trans (congrArg some hkey)⟩
  obtain ⟨kept, hkept, hfile⟩ := List.mem_map.1
    (PackagedFile.mem_builtFiles_dropRepeated.2 ⟨List.mem_map_of_mem hf, List.not_mem_nil⟩)
  refine ⟨kept, hkept, hfile, ?_⟩
  obtain ⟨m, hm, hp, ho⟩ := hown hf
  obtain ⟨m', hm', hp', ho'⟩ := hown ((PackagedFile.dropRepeated_sublist _ _).subset hkept)
  by_cases hne : m = m'
  · exact .inl (by rw [ho, ho', hne])
  · exact .inr ⟨m, hm, m', hm', ho, ho', (builtFile_eq_iff hw hk hm hm' hne hp hp').1 hfile.symm⟩

theorem one_file_iff_meet_sharedStem :
    ∃ ds w, Declaration.readDocument sharedStem = .sound ds ∧
      ofDeclarations ds sharedStemSettings .here = .ok w ∧
      ∀ m ∈ w.graph.members, ∀ m' ∈ w.graph.members, m ≠ m' →
        ∀ p ∈ m.node.builtFile?, ∀ p' ∈ m'.node.builtFile?, p ≠ p' := by
  obtain ⟨ds, w, _, _, _, _, hd, hw, _⟩ := exists_plan exists_outcome_sharedStem
  obtain ⟨hiff, hshelf, _⟩ := one_file_iff_meet hd hw
  have hall : ∀ ds ∈ (Declaration.readDocument sharedStem).toExcept.toOption.toList,
      ∀ d ∈ ds, d.KeepsShelf := by
    decide +kernel
  have hmeet := hshelf (hall ds (Checked.mem_toExcept hd))
  exact ⟨ds, w, hd, hw, fun m hm m' hm' hne p hp p' hp' he =>
    hmeet _ _ ((hiff m hm m' hm' hne p hp p' hp').1 he)⟩

end Workspace

def oneAbsolute : Datum := .obj [("modules", .arr [
  .obj [("type", .str "cc_library"), ("name", .str "a"), ("stem", .str "/x")],
  .obj [("type", .str "cc_binary"), ("name", .str "b"), ("stem", .str "/x.so")],
  .obj [("type", .str "apex_key"), ("name", .str "k"), ("public_key", .str "p"),
    ("private_key", .str "q")],
  .obj [("type", .str "apex"), ("name", .str "z"), ("key", .str "k"),
    ("native_shared_libs", .arr [.str "a"]), ("binaries", .arr [.str "b"]),
    ("payload_type", .str "zip")]])]

namespace Workspace

def found (w : Workspace) (s : Settings) (b : BundleModule) : List PackagedFile :=
  (Findings.ofBundle (w.graph.addAllBundleDependencies s w.bundles).1 s b).files

/-- Two nodes have one built file, and a bundle that asks for both of them has the file of one. -/
theorem file_lost_oneAbsolute :
    sharedStemSettings.targets.Nodup ∧ sharedStemSettings.nativeBridgeTargets.Nodup ∧
      ∃ ds w, Declaration.readDocument oneAbsolute = .sound ds ∧
        ofDeclarations ds sharedStemSettings .here = .ok w ∧
        (∃ m ∈ w.graph.members, ∃ m' ∈ w.graph.members, m ≠ m' ∧
          ∃ p ∈ m.node.builtFile?, p ∈ m'.node.builtFile?) ∧
        ∃ b ∈ w.bundles, ∃ f ∈ w.found sharedStemSettings b,
          ∀ kept ∈ PackagedFile.dropRepeated (w.found sharedStemSettings b),
            kept.owner ≠ f.owner := by
  have h : ∃ w ∈ (ofDocument? oneAbsolute sharedStemSettings .here).toList,
      (∃ m ∈ w.graph.members, ∃ m' ∈ w.graph.members, m.id ≠ m'.id ∧
        ∃ p ∈ m.node.builtFile?, p ∈ m'.node.builtFile?) ∧
      ∃ b ∈ w.bundles, ∃ f ∈ w.found sharedStemSettings b,
        ∀ kept ∈ PackagedFile.dropRepeated (w.found sharedStemSettings b),
          kept.owner ≠ f.owner := by
    decide +kernel
  obtain ⟨w, hw, ⟨m, hm, m', hm', hid, hp⟩, hlost⟩ := h
  obtain ⟨ds, hd, hw⟩ := ofDocument?_eq_some.1 (Option.mem_toList.1 hw)
  exact ⟨by decide, by decide, ds, w, hd, hw,
    ⟨m, hm, m', hm', fun he => hid (congrArg Member.id he), hp⟩, hlost⟩

end Workspace

end BundleWright
