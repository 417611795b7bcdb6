import BundleWright.Proofs.ModeListing
import BundleWright.Proofs.Placement
/-!
The table of access modes beside the staged tree. Main statement: the table lists what is staged and
the directories above it, the directories, links and executables in one part and the other files in
the other.
-/
namespace BundleWright

open BundleWright.Path

def Path.IsInner (rel : Path) : Prop := rel.root = .none ∧ rel.parts ≠ []

/-- Whether a path seen from `dir` is a directory above one of the places. -/
def Path.IsDirOver (places : List Path) (dir rel : Path) : Prop :=
  ∃ p ∈ places, Above (dir / rel) p

namespace PackagedFile

variable {f : PackagedFile} {rel : Path} {s t : String}

def InBin (f : PackagedFile) : Prop := (ofString f.installDir).parts.head? = some "bin"

instance (f : PackagedFile) : Decidable f.InBin := inferInstanceAs (Decidable (_ = _))

theorem amongExecutables_iff (h : f.Settled) : f.imageEntry.AmongExecutables ↔ f.InBin :=
  (head?_parts_iff h.normal f.root_installDir (by decide)).symm

theorem inBin_of_mem_symlinks (h : f.Settled) (hs : s ∈ f.symlinks) : f.InBin := by
  rw [InBin, h.links (List.ne_nil_of_mem hs)]
  decide +kernel

theorem isInner_place (h : f.builtFile.name ≠ "") : f.place.IsInner :=
  ⟨f.root_place, by simp [parts_place h]⟩

theorem isInner_linkPlace (hs : s ∈ f.symlinks) : (f.linkPlace s).IsInner :=
  ⟨root_linkPlace hs, by simp [parts_linkPlace hs]⟩

theorem parent_linkPlace (hs : s ∈ f.symlinks) :
    (f.linkPlace s).parent = ofString f.installDir := by
  rw [ext_iff', parent_root, parent_parts, parts_linkPlace hs, root_linkPlace hs, f.root_installDir]
  simp

theorem mem_directories_iff :
    t ∈ f.imageEntry.directories ↔
      ∃ rel : Path, rel.IsInner ∧ rel ∈ (ofString f.installDir).lineage ∧ rel.text = t := by
  simp only [ImageEntry.directories, imageEntry, List.mem_map, mem_dropLast_lineage_iff,
    mem_lineage_iff, f.root_installDir, IsInner]
  grind

theorem mem_readOnlyPaths_iff (h : f.Settled) :
    t ∈ f.imageEntry.readOnlyPaths ↔ ¬f.InBin ∧ f.place.text = t := by
  rw [ImageEntry.mem_readOnlyPaths, amongExecutables_iff h]
  rfl

theorem mem_executablePaths_iff (h : f.Settled) :
    t ∈ f.imageEntry.executablePaths ↔
      f.InBin ∧ f.place.text = t ∨ (∃ s ∈ f.symlinks, (f.linkPlace s).text = t) ∨
        ∃ rel : Path, rel.IsInner ∧ rel ∈ (ofString f.installDir).lineage ∧ rel.text = t := by
  have hlinks : t ∈ f.imageEntry.linkPaths ↔ ∃ s ∈ f.symlinks, (f.linkPlace s).text = t := by
    simp only [ImageEntry.linkPaths, List.mem_map]
    rfl
  have hbin : (f.InBin ∧ ∃ s ∈ f.symlinks, (f.linkPlace s).text = t) ↔
      ∃ s ∈ f.symlinks, (f.linkPlace s).text = t := by
    refine and_iff_right_of_imp ?_
    rintro ⟨s, hs, _⟩
    exact inBin_of_mem_symlinks h hs
  rw [ImageEntry.executablePaths_eq, List.mem_append, ImageEntry.mem_ownExecutables,
    amongExecutables_iff h, hlinks, mem_directories_iff, and_or_left, hbin, or_assoc]
  rfl

end PackagedFile

section Staging

variable {files : List PackagedFile} {dir rel p : Path} {t : String}

theorem mem_places_staging (hne : ∀ f ∈ files, f.builtFile.name ≠ "") :
    p ∈ (Action.staging files dir).work.places ↔
      (∃ f ∈ files, dir / f.place = p) ∨
        ∃ f ∈ files, ∃ s ∈ f.symlinks, dir / f.linkPlace s = p := by
  simp only [Action.staging, Work.places, List.map_map, List.mem_append, List.mem_map,
    List.mem_flatMap, Function.comp_apply, PackagedFile.destination_eq]
  refine or_congr_right ⟨?_, ?_⟩
  · rintro ⟨l, ⟨f, hf, hl⟩, rfl⟩
    rw [PackagedFile.links_eq (hne f hf)] at hl
    obtain ⟨s, hs, rfl⟩ := List.mem_map.1 hl
    exact ⟨f, hf, s, hs, rfl⟩
  · rintro ⟨f, hf, s, hs, rfl⟩
    refine ⟨⟨f.builtFile.name, dir / f.linkPlace s⟩, ⟨f, hf, ?_⟩, rfl⟩
    rw [PackagedFile.links_eq (hne f hf)]
    exact List.mem_map.2 ⟨s, hs, rfl⟩

theorem isDirOver_staging_iff (hne : ∀ f ∈ files, f.builtFile.name ≠ "") (hr : rel.root = .none) :
    IsDirOver (Action.staging files dir).work.places dir rel ↔
      ∃ f ∈ files, rel ∈ (ofString f.installDir).lineage := by
  constructor
  · rintro ⟨p, hp, ha⟩
    rcases (mem_places_staging hne).1 hp with ⟨f, hf, rfl⟩ | ⟨f, hf, s, hs, rfl⟩
    · rw [above_div_iff hr f.root_place,
        above_iff_mem_lineage (PackagedFile.isInner_place (hne f hf)).2,
        PackagedFile.parent_place (hne f hf)] at ha
      exact ⟨f, hf, ha⟩
    · rw [above_div_iff hr (PackagedFile.root_linkPlace hs),
        above_iff_mem_lineage (PackagedFile.isInner_linkPlace hs).2,
        PackagedFile.parent_linkPlace hs] at ha
      exact ⟨f, hf, ha⟩
  · rintro ⟨f, hf, ha⟩
    refine ⟨dir / f.place, (mem_places_staging hne).2 (.inl ⟨f, hf, rfl⟩), ?_⟩
    rwa [above_div_iff hr f.root_place,
      above_iff_mem_lineage (PackagedFile.isInner_place (hne f hf)).2,
      PackagedFile.parent_place (hne f hf)]

theorem mem_readOnly_iff (hs : ∀ f ∈ files, f.Settled) :
    t ∈ (AccessModes.ofFiles files).readOnly ↔ ∃ f ∈ files, ¬f.InBin ∧ f.place.text = t := by
  simp only [AccessModes.ofFiles, AccessModes.ofEntries, Text.mem_sortedOnce, List.flatMap_map,
    List.mem_flatMap]
  exact exists_congr fun f => and_congr_right fun hf => f.mem_readOnlyPaths_iff (hs f hf)

theorem mem_executable_iff (hs : ∀ f ∈ files, f.Settled) :
    t ∈ (AccessModes.ofFiles files).executable ↔
      (∃ f ∈ files, f.InBin ∧ f.place.text = t) ∨
        (∃ f ∈ files, ∃ s ∈ f.symlinks, (f.linkPlace s).text = t) ∨
          ∃ f ∈ files, ∃ rel : Path, rel.IsInner ∧ rel ∈ (ofString f.installDir).lineage ∧
            rel.text = t := by
  simp only [AccessModes.ofFiles, AccessModes.ofEntries, Text.mem_sortedOnce, List.flatMap_map,
    List.mem_flatMap]
  simp only [← exists_or, ← and_or_left]
  exact exists_congr fun f => and_congr_right fun hf => f.mem_executablePaths_iff (hs f hf)

theorem text_mem_readOnly_iff (hs : ∀ f ∈ files, f.Settled) (hr : rel.root = .none) (dir : Path) :
    rel.text ∈ (AccessModes.ofFiles files).readOnly ↔
      ∃ f ∈ files, ¬f.InBin ∧ f.destination dir = dir / rel := by
  rw [mem_readOnly_iff hs]
  refine exists_congr fun f => and_congr_right fun _ => and_congr_right fun _ => ?_
  rw [f.destination_eq, div_eq_div_iff f.root_place hr]
  exact ⟨text_injective, congrArg text⟩

theorem text_mem_executable_iff (hs : ∀ f ∈ files, f.Settled)
    (hne : ∀ f ∈ files, f.builtFile.name ≠ "") (hrel : rel.IsInner) (dir : Path) :
    rel.text ∈ (AccessModes.ofFiles files).executable ↔
      IsDirOver (Action.staging files dir).work.places dir rel ∨
        (∃ f ∈ files, f.InBin ∧ f.destination dir = dir / rel) ∨
          ∃ f ∈ files, ∃ l ∈ f.links dir, l.link = dir / rel := by
  have htext {p : Path} (hp : p.root = .none) : p.text = rel.text ↔ dir / p = dir / rel := by
    rw [div_eq_div_iff hp hrel.1]
    exact ⟨text_injective, congrArg text⟩
  have hfiles : (∃ f ∈ files, f.InBin ∧ f.place.text = rel.text) ↔
      ∃ f ∈ files, f.InBin ∧ f.destination dir = dir / rel := by
    simp only [htext (PackagedFile.root_place _), PackagedFile.destination_eq]
  have hlinks : (∃ f ∈ files, ∃ s ∈ f.symlinks, (f.linkPlace s).text = rel.text) ↔
      ∃ f ∈ files, ∃ l ∈ f.links dir, l.link = dir / rel := by
    refine exists_congr fun f => and_congr_right fun hf => ?_
    rw [f.links_eq (hne f hf)]
    constructor
    · rintro ⟨s, hl, ht⟩
      exact ⟨_, List.mem_map_of_mem hl, (htext (f.root_linkPlace hl)).1 ht⟩
    · rintro ⟨l, hl, he⟩
      obtain ⟨s, hs, rfl⟩ := List.mem_map.1 hl
      exact ⟨s, hs, (htext (f.root_linkPlace hs)).2 he⟩
  have hdirs : (∃ f ∈ files, ∃ q : Path, q.IsInner ∧ q ∈ (ofString f.installDir).lineage ∧
      q.text = rel.text) ↔ ∃ f ∈ files, rel ∈ (ofString f.installDir).lineage := by
    refine exists_congr fun f => and_congr_right fun _ => ⟨?_, fun h => ⟨rel, hrel, h, rfl⟩⟩
    rintro ⟨q, _, hq, ht⟩
    exact text_injective ht ▸ hq
  rw [mem_executable_iff hs, hfiles, hlinks, hdirs, isDirOver_staging_iff hne hrel.1]
  rw [or_comm, or_assoc, or_comm, or_assoc]

/-- What a table lists is what is staged and the directories above it. -/
theorem mem_modes_iff (hs : ∀ f ∈ files, f.Settled) (hne : ∀ f ∈ files, f.builtFile.name ≠ "") :
    t ∈ (AccessModes.ofFiles files).readOnly ∨ t ∈ (AccessModes.ofFiles files).executable ↔
      ∃ rel : Path, rel.IsInner ∧ (dir / rel ∈ (Action.staging files dir).work.places ∨
        IsDirOver (Action.staging files dir).work.places dir rel) ∧ rel.text = t := by
  have hplace {f : PackagedFile} (hf : f ∈ files) :
      dir / f.place ∈ (Action.staging files dir).work.places :=
    (mem_places_staging hne).2 (.inl ⟨f, hf, rfl⟩)
  constructor
  · rw [mem_readOnly_iff hs, mem_executable_iff hs]
    rintro (⟨f, hf, _, rfl⟩ | ⟨f, hf, _, rfl⟩ | ⟨f, hf, s, hl, rfl⟩ | ⟨f, hf, rel, hrel, ha, rfl⟩)
    · exact ⟨_, f.isInner_place (hne f hf), .inl (hplace hf), rfl⟩
    · exact ⟨_, f.isInner_place (hne f hf), .inl (hplace hf), rfl⟩
    · exact ⟨_, f.isInner_linkPlace hl,
        .inl ((mem_places_staging hne).2 (.inr ⟨f, hf, s, hl, rfl⟩)), rfl⟩
    · exact ⟨rel, hrel, .inr ((isDirOver_staging_iff hne hrel.1).2 ⟨f, hf, ha⟩), rfl⟩
  · rintro ⟨rel, hrel, hp | hd, rfl⟩
    · rcases (mem_places_staging hne).1 hp with ⟨f, hf, he⟩ | ⟨f, hf, s, hl, he⟩
      · have hdest : f.destination dir = dir / rel := by rw [f.destination_eq, he]
        by_cases hb : f.InBin
        · exact .inr ((text_mem_executable_iff hs hne hrel dir).2 (.inr (.inl ⟨f, hf, hb, hdest⟩)))
        · exact .inl ((text_mem_readOnly_iff hs hrel.1 dir).2 ⟨f, hf, hb, hdest⟩)
      · refine .inr ((text_mem_executable_iff hs hne hrel dir).2 (.inr (.inr ⟨f, hf, ?_⟩)))
        rw [f.links_eq (hne f hf)]
        exact ⟨_, List.mem_map_of_mem hl, he⟩
    · exact .inr ((text_mem_executable_iff hs hne hrel dir).2 (.inl hd))

end Staging

namespace Collection

variable {g : ModuleGraph} {b : BundleModule} {settings : Settings} {c : Collection}

/-- The two lists of a table of modes tell what is staged: together they hold the places of files
and links and the directories above them, the first one the files outside the directory of
executables, the second one everything else. -/
theorem modes_of_staged (h : ofBundle g b settings = .ok c)
    (hne : ∀ f ∈ c.files, f.builtFile.name ≠ "") (dir : Path) :
    let places := (Action.staging c.files dir).work.places
    let modes := AccessModes.ofFiles c.files
    (∀ p ∈ places, ∃ rel : Path, rel.IsInner ∧ dir / rel = p) ∧
      (∀ t, t ∈ modes.readOnly ∨ t ∈ modes.executable ↔
        ∃ rel : Path, rel.IsInner ∧ (dir / rel ∈ places ∨ IsDirOver places dir rel) ∧
          rel.text = t) ∧
      (∀ rel : Path, rel.IsInner → (rel.text ∈ modes.readOnly ↔
        ∃ f ∈ c.files, ¬f.InBin ∧ f.destination dir = dir / rel)) ∧
      (∀ rel : Path, rel.IsInner → (rel.text ∈ modes.executable ↔
        IsDirOver places dir rel ∨ (∃ f ∈ c.files, f.InBin ∧ f.destination dir = dir / rel) ∨
          ∃ f ∈ c.files, ∃ l ∈ f.links dir, l.link = dir / rel)) ∧
      modes.readOnly.Pairwise (· < ·) ∧ modes.executable.Pairwise (· < ·) := by
  have hs : ∀ f ∈ c.files, f.Settled := fun f hf => settled_of_mem h hf
  refine ⟨fun p hp => ?_, fun t => mem_modes_iff hs hne,
    fun rel hrel => text_mem_readOnly_iff hs hrel.1 dir,
    fun rel hrel => text_mem_executable_iff hs hne hrel dir,
    Text.pairwise_lt_sortedOnce _, Text.pairwise_lt_sortedOnce _⟩
  rcases (mem_places_staging hne).1 hp with ⟨f, hf, rfl⟩ | ⟨f, hf, s, hl, rfl⟩
  · exact ⟨f.place, f.isInner_place (hne f hf), rfl⟩
  · exact ⟨f.linkPlace s, f.isInner_linkPlace hl, rfl⟩

theorem modes_of_staged_ring :
    ∃ c, ofBundle ring ringBundle ringSettings = .ok c ∧ (∀ f ∈ c.files, f.builtFile.name ≠ "") ∧
      ∀ dir : Path, ∀ p ∈ (Action.staging c.files dir).work.places,
        ∃ rel : Path, rel.IsInner ∧ dir / rel = p := by
  have hkey : (Findings.ofBundle ring ringSettings ringBundle).keyFile = some .here := by
    decide +kernel
  have hfound : ∀ f ∈ (Findings.ofBundle ring ringSettings ringBundle).files,
      f.builtFile.name ≠ "" := by decide +kernel
  obtain ⟨c, hc⟩ := exists_ofBundle hkey
  have hne : ∀ f ∈ c.files, f.builtFile.name ≠ "" := by
    intro f hf
    rw [files_of_ofBundle hc] at hf
    obtain ⟨found, hm, rfl⟩ := exists_of_mem_normalised hf
    exact hfound found hm
  exact ⟨c, hc, hne, fun dir => (modes_of_staged hc hne dir).1⟩

end Collection

end BundleWright
