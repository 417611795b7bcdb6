import BundleWright.Proofs.Links
import BundleWright.Proofs.Staging
/-!
What stays inside a bundle. Main statement: everything a plan stages and installs stays inside its
directory unless a built file, or a bundle installed as a tree, is named after the parent directory;
and which declarations name a file so.
-/
namespace BundleWright

open BundleWright.Path

namespace Path

/-- Whether a path goes on from a directory, by at least one component, and never back up. -/
def Inside (dir p : Path) : Prop :=
  ∃ l, l ≠ [] ∧ ".." ∉ l ∧ p.root = dir.root ∧ p.parts = dir.parts ++ l

variable {dir a b : Path}

theorem inside_div_iff (ha : a.root = .none) :
    Inside dir (dir / a) ↔ a.parts ≠ [] ∧ ".." ∉ a.parts := by
  constructor
  · rintro ⟨l, hne, hl, _, hp⟩
    rw [join_parts_of_relative ha, List.append_cancel_left_eq] at hp
    exact hp ▸ ⟨hne, hl⟩
  · rintro ⟨hne, hl⟩
    exact ⟨a.parts, hne, hl, join_root_of_relative ha, join_parts_of_relative ha⟩

/-- What is below a directory of a directory is inside the latter if no component goes back up. -/
theorem inside_div_div_iff (ha : a.root = .none) (hb : b.root = .none) (hne : b.parts ≠ []) :
    Inside dir (dir / a / b : Path) ↔ ".." ∉ a.parts ∧ ".." ∉ b.parts := by
  rw [div_assoc ha hb, inside_div_iff ((join_root_of_relative hb).trans ha),
    join_parts_of_relative hb]
  simp [hne]

theorem div_eq_self (ha : a.root = .none) (hp : a.parts = []) : (dir / a : Path) = dir := by
  simp [ext_iff', ha, hp]

theorem ofString_of_not_mem {x : String} (h : '/' ∉ x.toList) :
    (ofString x).root = .none ∧ (".." ∈ (ofString x).parts ↔ x = "..") := by
  by_cases hc : IsComponent x
  · rw [ofString_component hc]
    simp [eq_comm]
  · have hx : x = "" ∨ x = "." := by
      by_contra hne
      rw [not_or] at hne
      exact hc ⟨by simpa using hne.1, fun he => hne.2 (String.toList_inj.1 he), h⟩
    rcases hx with rfl | rfl <;> decide +kernel

theorem mem_parts_ofString_name {p : Path} {x : String} :
    x ∈ (ofString p.name).parts ↔ p.name = x ∧ p.name ≠ "" := by
  by_cases h : p.name = ""
  · rw [h, ofString_empty]
    simp [here]
  · rw [ofString_component (isComponent_name h)]
    simp [h, eq_comm]

theorem isPlainName_of_long {x : String} (hs : '/' ∉ x.toList) (hl : 3 ≤ x.toList.length) :
    isPlainName x = true := by
  have hne {y : String} (hy : y.toList.length < 3) : x ≠ y := by
    rintro rfl
    omega
  simp [isPlainName, hs, hne]

theorem name_ofString_append_ne {t : String} (hs : '/' ∉ t.toList) (ht : 2 ≤ t.toList.length)
    (hl : t.toList.getLast? ≠ some '.') (x : String) : (ofString (x ++ t)).name ≠ ".." := by
  obtain ⟨w, hw⟩ := exists_name_ofString_append hs ht x
  have hne : t.toList ≠ [] := by
    rintro he
    simp [he] at ht
  rw [hw]
  intro he
  have hlast := congrArg (fun y : String => y.toList.getLast?) he
  simp only [String.toList_append, List.getLast?_append_of_ne_nil _ hne] at hlast
  exact hl hlast

end Path

namespace Node

variable {n : Node} {s : Settings} {q : Path}

/-- A built file is named like the path it is declared with, or after the variant if that has no
name. -/
theorem name_buildPath_cases (h : isPlainName n.variantId = true) :
    (n.buildPath s q).name = q.name ∨
      q.name = "" ∧ (n.buildPath s q).name = n.variantId := by
  unfold buildPath
  by_cases hr : q.root = .none
  · by_cases hq : q.parts = []
    · have hc := ofString_component (isComponent_of_isPlainName h)
      have hname : (s.outDir / n.name / n.variantId : Path).name = n.variantId := by
        have hd : (s.outDir / n.name / ofString n.variantId : Path).name =
            (ofString n.variantId).name := name_div (by rw [hc]) (by simp [hc])
        exact hd.trans (by rw [hc]; rfl)
      exact .inr ⟨by simp [Path.name, hq], by rw [div_eq_self hr hq, hname]⟩
    · exact .inl (name_div hr hq)
  · exact .inl (by rw [div_of_rooted hr])

theorem name_buildPath_eq_iff (h : isPlainName n.variantId = true) :
    (n.buildPath s q).name = ".." ↔ q.name = ".." := by
  rcases name_buildPath_cases (s := s) (q := q) h with he | ⟨hq, he⟩
  · rw [he]
  · have hv : n.variantId ≠ ".." := by
      rintro hv
      simp [hv, isPlainName] at h
    simp [he, hv, hq]

end Node

namespace Declaration

/-- Whether the file of a module is to be named after the parent directory. -/
def NamesParent : Declaration → Prop
  | .binary d => (ofString ((Bundle.given d.stem).getD d.name)).name = ".."
  | .script d => (builtName d.filename d.src).name = ".."
  | .prebuilt d => (builtName d.filename d.src).name = ".."
  | _ => False

instance : (d : Declaration) → Decidable d.NamesParent
  | .binary _ | .script _ | .prebuilt _ => inferInstanceAs (Decidable (_ = _))
  | .library _ | .java _ | .key _ | .certificate _ | .bundle _ | .defaults _ =>
    inferInstanceAs (Decidable False)

namespace Declares

variable {d : Declaration} {known : List BundleDefaults} {s : Settings} {dir : Path} {n : Node}

theorem not_mem_name (hk : d.Keeps) (h : Declares known s dir d n) : '/' ∉ n.name.toList := by
  rw [h.name_eq]
  refine not_mem_of_matchesName ?_
  cases h with
  | library _ _ => exact hk.1
  | binary _ _ => exact hk.1
  | script _ => exact hk.1
  | prebuilt _ => exact hk.1
  | _ => exact hk

theorem image_mem (h : Declares known s dir d n) : n.image ∈ [coreImage, vendorImage] := by
  have himage {va : Option Bool} {image : String} (hi : image ∈ imagesFor va) :
      image ∈ [coreImage, vendorImage] := by
    unfold imagesFor at hi
    split at hi <;> simp_all
  cases h with
  | library _ hi => exact himage hi
  | binary _ hi => exact himage hi
  | _ => exact List.mem_cons_self

theorem isPlainName_variantId (h : Declares known s dir d n) : isPlainName n.variantId = true := by
  have htargets : ∀ t ∈ s.targetOs.targets,
      3 ≤ t.os.toList.length ∧ '/' ∉ t.os.toList ∧ '/' ∉ t.arch.toList := by
    cases s.targetOs <;> decide +kernel
  have himages : ∀ image ∈ [coreImage, vendorImage], '/' ∉ image.toList := by decide +kernel
  obtain ⟨hlen, hos, harch⟩ := htargets _ h.target_mem
  have himage := himages _ h.image_mem
  refine isPlainName_of_long ?_ ?_
  · unfold Node.variantId Target.variantName
    split <;> split <;> simp [hos, harch, himage]
  · unfold Node.variantId Target.variantName
    split <;> split <;> simp only [String.toList_append, List.length_append] <;> omega

/-- Executables, scripts and resource files can be named after the parent directory; the names of
libraries have an ending. -/
theorem name_builtFile_eq_iff (h : Declares known s dir d n) {p : Path}
    (hp : n.builtFile? = some p) : p.name = ".." ↔ d.NamesParent := by
  have hplain := h.isPlainName_variantId
  cases h with
  | library _ _ =>
    cases hp
    have hne := name_ofString_append_ne (t := ".so") (by decide) (by decide) (by decide)
    exact iff_of_false (fun he => hne _ ((Node.name_buildPath_eq_iff hplain).1 he)) id
  | binary _ _ =>
    cases hp
    exact Node.name_buildPath_eq_iff hplain
  | script _ =>
    cases hp
    exact Node.name_buildPath_eq_iff hplain
  | java =>
    simp only [JavaDecl.node, Node.builtFile?] at hp
    split at hp
    · cases hp
      have hne := name_ofString_append_ne (t := ".jar") (by decide) (by decide) (by decide)
      exact iff_of_false (fun he => hne _ ((Node.name_buildPath_eq_iff hplain).1 he)) id
    · cases hp
  | prebuilt _ =>
    cases hp
    exact Node.name_buildPath_eq_iff hplain
  | _ => cases hp

end Declares

end Declaration

namespace PackagedFile

variable {f : PackagedFile} {n : Node} {setSystemApart : Bool} {dir : Path}

theorem not_mem_parts_place_iff (f : PackagedFile) :
    ".." ∉ f.place.parts ↔ f.builtFile.name ≠ ".." := by
  have hdir := (isRelativeSubdir_iff.1 f.inside).2
  rw [parts_place_eq, List.mem_append, mem_parts_ofString_name]
  constructor
  · intro h he
    exact h (.inr ⟨he, by simp [he]⟩)
  · rintro h (hm | ⟨he, _⟩)
    · exact hdir hm
    · exact h he

theorem inside_destination_iff (h : f.place.parts ≠ []) :
    dir.Inside (f.destination dir) ↔ f.builtFile.name ≠ ".." := by
  rw [destination_eq, inside_div_iff f.root_place, not_mem_parts_place_iff]
  exact and_iff_right h

theorem not_mem_parts_parent (f : PackagedFile) : ".." ∉ f.place.parent.parts := by
  have hdir := (isRelativeSubdir_iff.1 f.inside).2
  by_cases h : f.builtFile.name = ""
  · have hp : f.place.parts = (ofString f.installDir).parts := by
      rw [parts_place_eq, h, ofString_empty]
      exact List.append_nil _
    rw [parent_parts, hp]
    exact fun hm => hdir ((List.dropLast_sublist _).subset hm)
  · rwa [parent_place h]

theorem inside_of_mem_links (h : f.place.parts ≠ []) {l : FileLink} (hl : l ∈ f.links dir) :
    dir.Inside l.link := by
  have hmem := List.mem_map_of_mem (f := FileLink.link) hl
  rw [link_links h] at hmem
  obtain ⟨x, hx, he⟩ := List.mem_map.1 hmem
  have hplain := f.plain x hx
  have hc := isComponent_of_isPlainName hplain
  have hroot : (f.place.parent / x : Path).root = .none :=
    (root_div_component hc).trans f.root_place
  rw [← he, inside_div_iff hroot, parts_div_component hc]
  have hx : x ≠ ".." := by
    rintro rfl
    simp [isPlainName] at hplain
  have hup : ".." ∉ f.place.parts.dropLast := f.not_mem_parts_parent
  simp [hup, hx.symm]

end PackagedFile

theorem Collection.place_ne_nil {g : ModuleGraph} {b : BundleModule} {s : Settings} {c : Collection}
    (h : ofBundle g b s = .ok c) : ∀ f ∈ c.files, f.place.parts ≠ [] := by
  intro f hf
  obtain ⟨_, n, _, hof⟩ := exists_isOf h hf
  exact hof.place_ne_nil

/-- Whether what a plan stages stays in the staged directory, and what it installs in the directory
of bundles. -/
structure Plan.Contained (p : Plan) (s : Settings) : Prop where
  staged : ∀ act ∈ p.actions, ∀ copies links, act.work = .stage copies links →
    ∃ image, act.outputs = [image] ∧ (∀ c ∈ copies, image.Inside c.dest) ∧
      ∀ l ∈ links, image.Inside l.link
  installed : ∀ q ∈ p.installedFiles, (s.installRoot / "apex" : Path).Inside q

namespace BundleModule

variable {b : BundleModule} {c : Collection} {s : Settings} {tree : FileTree} {plan : Plan}
  {q : Path}

theorem exists_of_mem_installedFiles (h : b.plan c s tree = .ok plan)
    (hq : q ∈ plan.installedFiles) :
    (∃ payload : Payload, q = s.installDir / (b.name ++ payload.ending)) ∨ b.InstallsTree s ∧
      ∃ f ∈ c.files ++ [b.flattenedManifest s], q = f.destination (s.installDir / b.name) := by
  obtain ⟨contexts, hplanned⟩ := planned_of_mem_actions h
  obtain ⟨act, hact, hq⟩ := List.mem_flatMap.1 hq
  obtain ⟨hact, hi⟩ := List.mem_filter.1 hact
  rcases (hplanned act hact).of_install hi with ⟨payload, rfl⟩ | ⟨ht, f, hf, rfl⟩
  · exact .inl ⟨payload, List.mem_singleton.1 hq⟩
  · exact .inr ⟨ht, f, hf, List.mem_singleton.1 hq⟩

theorem destination_mem_installedFiles (h : b.plan c s tree = .ok plan) (ht : b.InstallsTree s)
    {f : PackagedFile} (hf : f ∈ c.files ++ [b.flattenedManifest s]) :
    f.destination (s.installDir / b.name) ∈ plan.installedFiles :=
  List.mem_flatMap.2 ⟨_, List.mem_filter.2 ⟨installFlattened_mem_actions h ht hf, rfl⟩,
    List.mem_singleton_self _⟩

theorem name_flattenedManifest (b : BundleModule) (s : Settings) :
    (b.flattenedManifest s).builtFile.name = Bundle.defaultManifest := by
  have hc : IsComponent Bundle.defaultManifest := by decide
  rw [flattenedManifest, Path.name, parts_div_component hc]
  simp

theorem place_flattenedManifest_ne_nil (b : BundleModule) (s : Settings) :
    (b.flattenedManifest s).place.parts ≠ [] := by
  have hne : (b.flattenedManifest s).builtFile.name ≠ "" := by
    rw [name_flattenedManifest]
    decide
  simp [PackagedFile.parts_place hne]

theorem four_le_length_archive (b : BundleModule) (payload : Payload) :
    4 ≤ (b.name ++ payload.ending).toList.length := by
  have hend : 4 ≤ payload.ending.toList.length := by cases payload <;> decide
  rw [String.toList_append, List.length_append]
  omega

theorem isComponent_archive (hn : '/' ∉ b.name.toList) (payload : Payload) :
    IsComponent (b.name ++ payload.ending) := by
  have hlen := b.four_le_length_archive payload
  have hend : '/' ∉ payload.ending.toList := by cases payload <;> decide
  refine ⟨fun he => ?_, fun he => ?_, by simp [hn, hend]⟩ <;> simp [he] at hlen

theorem inside_archive (hn : '/' ∉ b.name.toList) (payload : Payload) :
    s.installDir.Inside (s.installDir / (b.name ++ payload.ending)) := by
  have hlen := b.four_le_length_archive payload
  have hc := isComponent_archive hn payload
  have hup : b.name ++ payload.ending ≠ ".." := by
    rintro he
    simp [he] at hlen
  exact ⟨[b.name ++ payload.ending], by simp, by simp [hup.symm], root_div_component hc,
    parts_div_component hc⟩

/-- A file of the tree of a bundle is inside unless it or the tree is named after the parent
directory. -/
theorem inside_tree_iff (hn : '/' ∉ b.name.toList) {f : PackagedFile} (hf : f.place.parts ≠ []) :
    s.installDir.Inside (f.destination (s.installDir / b.name)) ↔
      b.name ≠ ".." ∧ f.builtFile.name ≠ ".." := by
  obtain ⟨hroot, hup⟩ := ofString_of_not_mem hn
  rw [PackagedFile.destination_eq, show (s.installDir / b.name / f.place : Path) =
    s.installDir / ofString b.name / f.place from rfl, inside_div_div_iff hroot f.root_place hf,
    f.not_mem_parts_place_iff, not_congr hup]

theorem exists_staged_dir (hfiles : ∀ f ∈ c.files, f.place.parts ≠ [])
    (h : b.plan c s tree = .ok plan) {act : Action} (hact : act ∈ plan.actions)
    {copies : List FileCopy} {links : List FileLink} (hw : act.work = .stage copies links) :
    ∃ image, act.outputs = [image] ∧
      (∀ x ∈ copies, (∃ f ∈ c.files, f.builtFile = x.source) ∧
        (image.Inside x.dest ↔ x.source.name ≠ "..")) ∧
      ∀ l ∈ links, image.Inside l.link := by
  obtain ⟨payload, rfl⟩ := eq_staging_of_mem_actions h hact hw
  cases hw
  refine ⟨_, rfl, fun x hx => ?_, fun l hl => ?_⟩
  · obtain ⟨f, hf, rfl⟩ := List.mem_map.1 hx
    exact ⟨⟨f, hf, rfl⟩, PackagedFile.inside_destination_iff (hfiles f hf)⟩
  · obtain ⟨f, hf, hl⟩ := List.mem_flatMap.1 hl
    exact PackagedFile.inside_of_mem_links (hfiles f hf) hl

theorem contained_iff (hn : '/' ∉ b.name.toList) (hfiles : ∀ f ∈ c.files, f.place.parts ≠ [])
    (h : b.plan c s tree = .ok plan) :
    plan.Contained s ↔ (∀ f ∈ plan.files, f.builtFile.name ≠ "..") ∧
      (b.InstallsTree s → b.name ≠ "..") := by
  rw [(plan_eq_ok h).1]
  have hplace : ∀ f ∈ c.files ++ [b.flattenedManifest s], f.place.parts ≠ [] := by
    intro f hf
    rcases List.mem_append.1 hf with hf | hf
    · exact hfiles f hf
    · rw [List.mem_singleton.1 hf]
      exact b.place_flattenedManifest_ne_nil s
  constructor
  · intro hcon
    refine ⟨fun f hf => ?_, fun ht => ?_⟩
    · obtain ⟨payload, hact, _⟩ := exists_payload h
      obtain ⟨image, himage, hcopies, _⟩ := hcon.staged _ hact _ _ rfl
      obtain rfl := List.singleton_inj.1 himage
      exact (PackagedFile.inside_destination_iff (hfiles f hf)).1
        (hcopies _ (List.mem_map_of_mem hf))
    · have hf : b.flattenedManifest s ∈ c.files ++ [b.flattenedManifest s] := by simp
      exact ((inside_tree_iff hn (hplace _ hf)).1
        (hcon.installed _ (destination_mem_installedFiles h ht hf))).1
  · rintro ⟨hnames, htree⟩
    constructor
    · intro act hact copies links hwork
      obtain ⟨image, himage, hcopies, hlinks⟩ := exists_staged_dir hfiles h hact hwork
      refine ⟨image, himage, fun x hx => ?_, hlinks⟩
      obtain ⟨⟨f, hf, hsource⟩, hinside⟩ := hcopies x hx
      exact hinside.2 (hsource ▸ hnames f hf)
    · intro q hq
      rcases exists_of_mem_installedFiles h hq with ⟨payload, rfl⟩ | ⟨ht, f, hf, rfl⟩
      · exact inside_archive hn payload
      · refine (inside_tree_iff hn (hplace f hf)).2 ⟨htree ht, ?_⟩
        rcases List.mem_append.1 hf with hf | hf
        · exact hnames f hf
        · rw [List.mem_singleton.1 hf, name_flattenedManifest]
          decide

end BundleModule

namespace Workspace

variable {doc : Datum} {ds : List Declaration} {s₀ s : Settings} {dir : Path} {w w' : Workspace}
  {tree : FileTree} {names : List String} {a : Assembly} {o : Outcome} {plan : Plan}

theorem not_mem_name_bundle (hd : Declaration.readDocument doc = .sound ds)
    (hw : ofDeclarations ds s₀ dir = .ok w) {b : BundleModule} (hb : b ∈ w.bundles) :
    '/' ∉ b.name.toList := by
  have hk := Declaration.keeps_of_readDocument hd
  have hnode := (sound_of_ofDeclarations hk hw).bundles b hb
  obtain ⟨d, hmem, known, hdecl⟩ := exists_declaration hw (ModuleGraph.mem_of_node? hnode)
  exact hdecl.not_mem_name (hk d hmem)

/-- When everything that is planned for a bundle stays inside: no built file is named after the
parent directory, and neither is a bundle whose tree is installed. Links are inside in any case, and
so is the copy of each file that is not named so; the files named so are those of modules declared
to be. -/
theorem contained_iff_names (hd : Declaration.readDocument doc = .sound ds)
    (hw : ofDeclarations ds s₀ dir = .ok w) (ha : w.assemble s tree names = (w', .ok a))
    (ho : o ∈ a.outcomes) (hp : o.result = .ok plan) :
    (plan.Contained s ↔ (∀ f ∈ plan.files, f.builtFile.name ≠ "..") ∧
      (o.bundle.InstallsTree s → o.bundle.name ≠ "..")) ∧
    (∀ act ∈ plan.actions, ∀ copies links, act.work = .stage copies links →
      ∃ image, act.outputs = [image] ∧
        (∀ x ∈ copies, image.Inside x.dest ↔ x.source.name ≠ "..") ∧
          ∀ l ∈ links, image.Inside l.link) ∧
    ∀ f ∈ plan.files, ∃ d ∈ ds, (∃ id, f.owner = some id ∧ id.name = d.name) ∧
      (f.builtFile.name = ".." ↔ d.NamesParent) := by
  have hs := sound_of_ofDeclarations (Declaration.keeps_of_readDocument hd) hw
  have hg := assembled_of_assemble hs ha
  obtain ⟨hb, _, c, _, hc, hplan, _⟩ := exists_of_outcome hs ha ho hp
  have hfiles := Collection.place_ne_nil hc
  refine ⟨BundleModule.contained_iff (not_mem_name_bundle hd hw hb) hfiles hplan, ?_, ?_⟩
  · intro act hact copies links hwork
    obtain ⟨image, himage, hcopies, hlinks⟩ :=
      BundleModule.exists_staged_dir hfiles hplan hact hwork
    exact ⟨image, himage, fun x hx => (hcopies x hx).2, hlinks⟩
  · intro f hf
    rw [(BundleModule.plan_eq_ok hplan).1] at hf
    obtain ⟨n, hn, hof⟩ := Collection.exists_owner hg.settled hc hf
    rw [hof.owner, Option.bind_some] at hn
    obtain ⟨d, hmem, known, hdecl⟩ := Assembled.exists_declaration hw hg hn
    exact ⟨d, hmem, ⟨n.key, hof.owner, hdecl.name_eq⟩,
      hdecl.name_builtFile_eq_iff hof.offers.builtFile⟩

theorem contained_iff_names_layered :
    ∃ ds w w' a o plan, Declaration.readDocument layered = .sound ds ∧
      ofDeclarations ds layeredSettings .here = .ok w ∧
      w.assemble layeredSettings layeredTree [] = (w', .ok a) ∧ o ∈ a.outcomes ∧
      o.result = .ok plan ∧ plan.Contained layeredSettings := by
  obtain ⟨ds, w, w', a, o, plan, hd, hw, ha, ho, _, hp⟩ := exists_plan exists_outcome_layered
  obtain ⟨hiff, _, howner⟩ := contained_iff_names hd hw ha ho hp
  have hall : ∀ ds ∈ (Declaration.readDocument layered).toExcept.toOption.toList,
      ∀ d ∈ ds, ¬d.NamesParent := by
    decide +kernel
  replace hall := hall ds (Checked.mem_toExcept hd)
  refine ⟨ds, w, w', a, o, plan, hd, hw, ha, ho, hp, hiff.2 ⟨fun f hf he => ?_, fun ht => ?_⟩⟩
  · obtain ⟨d, hmem, _, hname⟩ := howner f hf
    exact hall d hmem (hname.1 he)
  · exact absurd ht.2.1 (by decide)

end Workspace

def climbing : Datum := .obj [("modules", .arr [
  .obj [("type", .str "cc_binary"), ("name", .str "t"), ("stem", .str "..")],
  .obj [("type", .str "apex_key"), ("name", .str "k"), ("public_key", .str "p"),
    ("private_key", .str "q")],
  .obj [("type", .str "apex"), ("name", .str "z"), ("key", .str "k"),
    ("binaries", .arr [.str "t"]), ("payload_type", .str "zip")]])]

theorem exists_outcome_climbing :
    ∃ o ∈ Workspace.outcomesOf climbing sharedStemSettings .here {}, o.ok = true := by
  decide +kernel

namespace Workspace

variable {w : Workspace}

theorem exists_named_parent_climbing
    (hw : ofDocument? climbing sharedStemSettings .here = some w) :
    ∀ b ∈ w.bundles, ∃ f ∈ PackagedFile.dropRepeated (Findings.ofBundle
      (w.graph.addAllBundleDependencies sharedStemSettings w.bundles).1 sharedStemSettings b).files,
      f.builtFile.name = ".." := by
  have h : ∀ w ∈ (ofDocument? climbing sharedStemSettings .here).toList, ∀ b ∈ w.bundles,
      ∃ f ∈ PackagedFile.dropRepeated (Findings.ofBundle
        (w.graph.addAllBundleDependencies sharedStemSettings w.bundles).1 sharedStemSettings
        b).files, f.builtFile.name = ".." := by decide +kernel
  exact h w (Option.mem_toList.2 hw)

theorem staging_escapes_climbing :
    ∃ ds w w' a o plan, Declaration.readDocument climbing = .sound ds ∧
      ofDeclarations ds sharedStemSettings .here = .ok w ∧
      w.assemble sharedStemSettings {} [] = (w', .ok a) ∧ o ∈ a.outcomes ∧ o.ok = true ∧
      o.result = .ok plan ∧ ¬plan.Contained sharedStemSettings := by
  obtain ⟨ds, w, w', a, o, plan, hd, hw, ha, ho, hok, hp⟩ := exists_plan exists_outcome_climbing
  have hs := sound_of_ofDeclarations (Declaration.keeps_of_readDocument hd) hw
  obtain ⟨hb, _, c, _, hc, hplan, _⟩ := exists_of_outcome hs ha ho hp
  have hfiles := Collection.place_ne_nil hc
  obtain ⟨f, hf, hname⟩ :=
    exists_named_parent_climbing (ofDocument?_eq_some.2 ⟨ds, hd, hw⟩) _ hb
  refine ⟨ds, w, w', a, o, plan, hd, hw, ha, ho, hok, hp, fun hcon => ?_⟩
  have hnames :=
    ((BundleModule.contained_iff (not_mem_name_bundle hd hw hb) hfiles hplan).1 hcon).1
  rw [(BundleModule.plan_eq_ok hplan).1, Collection.files_of_ofBundle hc] at hnames
  rw [← findings_of_assemble ha] at hf
  exact hnames _ ((Collection.normalised_perm _ _).mem_iff.2 (List.mem_map_of_mem hf)) hname

end Workspace

end BundleWright
