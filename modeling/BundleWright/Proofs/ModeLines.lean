import BundleWright.Proofs.BuiltFiles
import BundleWright.Proofs.ModeTable
import BundleWright.Proofs.PlaceChecks
import BundleWright.Proofs.Text.Words
/-!
The table of access modes as it is read again. Main statement: the table of an image can be read
back, line by line and field by field, exactly when no file in it has a blank in its name, its
directory or its links, and which declarations bring such files.
-/
namespace BundleWright

open BundleWright.Path
open Text (HasBlank)

structure ModeLine where
  path : String
  user : String
  group : String
  mode : String
  deriving DecidableEq, Repr

namespace ModeLine

def isNumber (s : String) : Bool := s != "" && s.toList.all Char.isDigit

def ofText? (line : String) : Option ModeLine :=
  match Text.words line with
  | [path, user, group, mode] =>
    match path.toList with
    | '/' :: cs =>
      if isNumber user && isNumber group && isNumber mode then
        some ⟨String.ofList cs, user, group, mode⟩
      else none
    | _ => none
  | _ => none

theorem ofText?_append {path user group mode : String} (hp : ¬HasBlank path) (fields : String)
    (hw : Text.words fields = [user, group, mode])
    (hn : (isNumber user && isNumber group && isNumber mode) = true) :
    ofText? ("/" ++ path ++ (" " ++ fields)) = some ⟨path, user, group, mode⟩ := by
  have hslash : ¬HasBlank ("/" ++ path) := by
    rw [Text.hasBlank_append_iff, not_or]
    exact ⟨by decide, hp⟩
  have hl : ("/" ++ path).toList = '/' :: path.toList := String.toList_append
  have hne : "/" ++ path ≠ "" := by
    rintro he
    simp [he] at hl
  rw [ofText?, Text.words_append_space, Text.words_of_not_hasBlank hslash hne, hw]
  simp only [List.singleton_append, hl, hn, ite_true, String.ofList_toList]

/-- Whatever the line, the path that is read from it has no blank. -/
theorem not_hasBlank_path {line : String} {x : ModeLine} (h : ofText? line = some x) :
    ¬HasBlank x.path := by
  unfold ofText? at h
  split at h
  · next path user group mode hw =>
    split at h
    · next cs hcs =>
      split at h
      · cases h
        intro hb
        obtain ⟨c, hc, hb⟩ := Text.hasBlank_iff.1 hb
        rw [String.toList_ofList] at hc
        have hmem : path ∈ Text.words line := by simp [hw]
        have hpath : HasBlank path := Text.hasBlank_iff.2 ⟨c, by simp [hcs, hc], hb⟩
        exact Text.not_hasBlank_of_mem_words hmem hpath
      · cases h
    · cases h
  · cases h

end ModeLine

namespace AccessModes

def modeLines (m : AccessModes) : List ModeLine :=
  [⟨"", "1000", "1000", "0755"⟩, ⟨"apex_manifest.json", "1000", "1000", "0644"⟩] ++
    m.readOnly.map (⟨·, "1000", "1000", "0644"⟩) ++ m.executable.map (⟨·, "0", "2000", "0755"⟩)

def ofTable (content : String) : AccessModes :=
  let rows := ((Text.lines content).drop 2).filterMap ModeLine.ofText?
  ⟨(rows.filter (·.mode = "0644")).map (·.path), (rows.filter (·.mode = "0755")).map (·.path)⟩

/-- Whether a text is read back as a table of these modes. -/
structure ReadsBack (m : AccessModes) (content : String) : Prop where
  /-- Each line ends, and there are no others. -/
  lines : Text.lines content = m.tableLines ++ [""]
  fields : m.tableLines.map ModeLine.ofText? = m.modeLines.map some
  modes : ofTable content = m

variable {m : AccessModes}

theorem lines_table_iff : Text.lines m.table = m.tableLines ++ [""] ↔
    ∀ l ∈ m.tableLines, '\n' ∉ l.toList :=
  Text.lines_intercalate_iff (by simp [tableLines])

section Blankless

variable (h : ∀ p, p ∈ m.readOnly ∨ p ∈ m.executable → ¬HasBlank p)
include h

theorem fields_of_not_hasBlank : m.tableLines.map ModeLine.ofText? = m.modeLines.map some := by
  have hfront : ["/ 1000 1000 0755", "/apex_manifest.json 1000 1000 0644"].map ModeLine.ofText? =
      [some ⟨"", "1000", "1000", "0755"⟩,
        some ⟨"apex_manifest.json", "1000", "1000", "0644"⟩] := by
    decide +kernel
  have hread : m.readOnly.map (ModeLine.ofText? ∘ fun p => "/" ++ p ++ " 1000 1000 0644") =
      m.readOnly.map (some ∘ (⟨·, "1000", "1000", "0644"⟩)) :=
    List.map_congr_left fun p hp => ModeLine.ofText?_append (h p (.inl hp)) "1000 1000 0644"
      (by decide +kernel) (by decide +kernel)
  have hexec : m.executable.map (ModeLine.ofText? ∘ fun p => "/" ++ p ++ " 0 2000 0755") =
      m.executable.map (some ∘ (⟨·, "0", "2000", "0755"⟩)) :=
    List.map_congr_left fun p hp => ModeLine.ofText?_append (h p (.inr hp)) "0 2000 0755"
      (by decide +kernel) (by decide +kernel)
  simp only [tableLines, modeLines, List.map_append, List.map_map, hfront, hread, hexec]
  rfl

theorem lines_of_not_hasBlank : Text.lines m.table = m.tableLines ++ [""] := by
  have hbreak {p t : String} (hp : ¬HasBlank p) (ht : '\n' ∉ t.toList) :
      '\n' ∉ ("/" ++ p ++ t).toList := by
    simp only [String.toList_append, List.mem_append, not_or]
    exact ⟨⟨by decide, fun hc => hp (Text.hasBlank_iff.2 ⟨_, hc, by decide⟩)⟩, ht⟩
  refine lines_table_iff.2 fun l hl => ?_
  simp only [tableLines, List.mem_append, List.mem_cons, List.not_mem_nil, or_false,
    List.mem_map] at hl
  rcases hl with ((rfl | rfl) | ⟨p, hp, rfl⟩) | ⟨p, hp, rfl⟩
  · decide
  · decide
  · exact hbreak (h p (.inl hp)) (by decide)
  · exact hbreak (h p (.inr hp)) (by decide)

theorem modes_of_not_hasBlank : ofTable m.table = m := by
  have hrows : (m.tableLines.drop 2).filterMap ModeLine.ofText? = m.modeLines.drop 2 := by
    have hmap := congrArg (fun l => (l.drop 2).filterMap id) (fields_of_not_hasBlank h)
    simpa only [← List.map_drop, List.filterMap_map, Function.id_comp, Function.comp_def, id_eq,
      List.filterMap_some] using hmap
  have hend : ModeLine.ofText? "" = none := by simp [ModeLine.ofText?, Text.words]
  have hlen : 2 ≤ m.tableLines.length := by simp [tableLines]
  have hread : (m.modeLines.drop 2) = m.readOnly.map (⟨·, "1000", "1000", "0644"⟩) ++
      m.executable.map (⟨·, "0", "2000", "0755"⟩) := rfl
  rw [ofTable, lines_of_not_hasBlank h, List.drop_append_of_le_length hlen, List.filterMap_append,
    hrows, List.filterMap_cons_none hend, List.filterMap_nil, List.append_nil, hread]
  simp [List.filter_append, List.filter_map, Function.comp_def]

end Blankless

theorem exists_line_of_mem_ofTable {content p : String}
    (h : p ∈ (ofTable content).readOnly ∨ p ∈ (ofTable content).executable) :
    ∃ line x, ModeLine.ofText? line = some x ∧ x.path = p := by
  simp only [ofTable, List.mem_map, List.mem_filter, List.mem_filterMap] at h
  obtain ⟨x, ⟨⟨line, _, hx⟩, _⟩, hp⟩ | ⟨x, ⟨⟨line, _, hx⟩, _⟩, hp⟩ := h
  · exact ⟨line, x, hx, hp⟩
  · exact ⟨line, x, hx, hp⟩

/-- A table can be read back exactly when no path in it has a blank. -/
theorem readsBack_table_iff :
    m.ReadsBack m.table ↔ ∀ p, p ∈ m.readOnly ∨ p ∈ m.executable → ¬HasBlank p := by
  constructor
  · intro h p hp
    have hread : p ∈ (ofTable m.table).readOnly ∨ p ∈ (ofTable m.table).executable := by
      rwa [h.modes]
    obtain ⟨line, x, hline, rfl⟩ := exists_line_of_mem_ofTable hread
    exact ModeLine.not_hasBlank_path hline
  · exact fun h =>
      ⟨lines_of_not_hasBlank h, fields_of_not_hasBlank h, modes_of_not_hasBlank h⟩

end AccessModes

theorem Path.hasBlank_of_mem_lineage {rel p : Path} (h : rel ∈ p.lineage)
    (hb : HasBlank rel.text) : ∃ q ∈ p.parts, HasBlank q := by
  obtain ⟨q, hq, hb⟩ := hasBlank_text_iff.1 hb
  exact ⟨q, (mem_lineage_iff.1 h).2.subset hq, hb⟩

namespace PackagedFile

/-- Whether a file has a blank in what its paths in the bundle are made of. -/
def Spaced (f : PackagedFile) : Prop :=
  HasBlank f.installDir ∨ HasBlank f.builtFile.name ∨ ∃ s ∈ f.symlinks, HasBlank s

instance (f : PackagedFile) : Decidable f.Spaced := inferInstanceAs (Decidable (_ ∨ _ ∨ _))

variable {f : PackagedFile} {s : String}

theorem hasBlank_place_iff :
    HasBlank f.place.text ↔ HasBlank f.installDir ∨ HasBlank f.builtFile.name := by
  rw [hasBlank_text_iff, parts_place_eq, ← exists_hasBlank_parts_iff,
    ← exists_hasBlank_parts_iff (s := f.builtFile.name)]
  simp only [List.mem_append, or_and_right, exists_or]

theorem hasBlank_linkPlace_iff (hs : s ∈ f.symlinks) :
    HasBlank (f.linkPlace s).text ↔ HasBlank f.installDir ∨ HasBlank s := by
  rw [hasBlank_text_iff, parts_linkPlace hs, ← exists_hasBlank_parts_iff]
  simp only [List.mem_append, List.mem_singleton, or_and_right, exists_or, exists_eq_left]

theorem exists_hasBlank_listed_iff {files : List PackagedFile} (hs : ∀ f ∈ files, f.Settled) :
    (∃ t, (t ∈ (AccessModes.ofFiles files).readOnly ∨
      t ∈ (AccessModes.ofFiles files).executable) ∧ HasBlank t) ↔ ∃ f ∈ files, f.Spaced := by
  simp only [mem_readOnly_iff hs, mem_executable_iff hs]
  constructor
  · rintro ⟨t, ⟨f, hf, _, rfl⟩ | ⟨f, hf, _, rfl⟩ | ⟨f, hf, s, hl, rfl⟩ |
      ⟨f, hf, rel, _, hrel, rfl⟩, hb⟩
    · exact ⟨f, hf, (hasBlank_place_iff.1 hb).imp_right .inl⟩
    · exact ⟨f, hf, (hasBlank_place_iff.1 hb).imp_right .inl⟩
    · exact ⟨f, hf, ((hasBlank_linkPlace_iff hl).1 hb).imp_right fun hb => .inr ⟨s, hl, hb⟩⟩
    · exact ⟨f, hf, .inl (exists_hasBlank_parts_iff.1 (hasBlank_of_mem_lineage hrel hb))⟩
  · have hplace {f : PackagedFile} (hf : f ∈ files) : (∃ g ∈ files, ¬g.InBin ∧
        g.place.text = f.place.text) ∨ ∃ g ∈ files, g.InBin ∧ g.place.text = f.place.text := by
      by_cases hbin : f.InBin
      · exact .inr ⟨f, hf, hbin, rfl⟩
      · exact .inl ⟨f, hf, hbin, rfl⟩
    rintro ⟨f, hf, hb | hb | ⟨s, hl, hb⟩⟩
    · exact ⟨f.place.text, (hplace hf).imp_right .inl, hasBlank_place_iff.2 (.inl hb)⟩
    · exact ⟨f.place.text, (hplace hf).imp_right .inl, hasBlank_place_iff.2 (.inr hb)⟩
    · exact ⟨(f.linkPlace s).text, .inr (.inr (.inl ⟨f, hf, s, hl, rfl⟩)),
        (hasBlank_linkPlace_iff hl).2 (.inr hb)⟩

theorem readsBack_ofFiles_iff {files : List PackagedFile} (hs : ∀ f ∈ files, f.Settled) :
    (AccessModes.ofFiles files).ReadsBack (AccessModes.ofFiles files).table ↔
      ∀ f ∈ files, ¬f.Spaced := by
  rw [AccessModes.readsBack_table_iff]
  have h := not_congr (exists_hasBlank_listed_iff hs)
  push Not at h
  exact h

end PackagedFile

namespace Declaration

def symlinks : Declaration → List String
  | .binary d => d.symlinks
  | _ => []

/-- Whether a module is declared with a blank in the name of its file, in the directory for it or in
a link beside it. -/
def Spaced (d : Declaration) : Prop :=
  (∃ q ∈ d.file?, HasBlank q.name) ∨ HasBlank d.subDirectory ∨ ∃ s ∈ d.symlinks, HasBlank s

instance (d : Declaration) : Decidable d.Spaced := inferInstanceAs (Decidable (_ ∨ _ ∨ _))

variable {d : Declaration} {t : Target} {area : String}

theorem not_hasBlank_area (h : d.area? t = some area) : ¬HasBlank area := by
  cases d with
  | library =>
    obtain rfl := Option.some.inj h
    split <;> decide
  | binary | script | java | prebuilt =>
    obtain rfl := Option.some.inj h
    decide
  | _ => cases h

namespace Declares

variable {known : List BundleDefaults} {s : Settings} {dir : Path} {n : Node} {f : PackagedFile}
  {setSystemApart : Bool}

theorem not_hasBlank_target (h : Declares known s dir d n) :
    ¬HasBlank n.target.os ∧ ¬HasBlank n.target.arch := by
  have htargets : ∀ t ∈ s.targetOs.targets, ¬HasBlank t.os ∧ ¬HasBlank t.arch := by
    cases s.targetOs <;> decide +kernel
  exact htargets _ h.target_mem

theorem not_hasBlank_variantId (h : Declares known s dir d n) : ¬HasBlank n.variantId := by
  have himages : ∀ image ∈ [coreImage, vendorImage], ¬HasBlank image := by decide +kernel
  have himage := himages _ h.image_mem
  have hscore : ¬HasBlank "_" := by decide
  have hbridge : ¬HasBlank "_native_bridge" := by decide
  obtain ⟨hos, harch⟩ := h.not_hasBlank_target
  unfold Node.variantId Target.variantName
  split <;> split <;>
    simp only [Text.hasBlank_append_iff, hos, harch, himage, hscore, hbridge, or_self,
      not_false_eq_true]

theorem not_hasBlank_below (h : Declares known s dir d n) :
    ∀ p ∈ d.below n.target setSystemApart, ¬HasBlank p := by
  have hsystem : ¬HasBlank InstallDir.systemLibrariesDir := by decide
  have harch := h.not_hasBlank_target.2
  intro p hp
  cases d with
  | library d =>
    rcases List.mem_append.1 hp with hp | hp
    · split at hp
      · cases hp
      · exact List.mem_singleton.1 hp ▸ harch
    · split at hp
      · exact List.mem_singleton.1 hp ▸ hsystem
      · cases hp
  | _ => cases hp

theorem hasBlank_installDir_iff (hk : d.Keeps) (h : Declares known s dir d n) {place : String}
    (hp : InstallDir.ofNode? n setSystemApart = some place) :
    HasBlank place ↔ HasBlank d.subDirectory := by
  obtain ⟨area, harea, hparts⟩ := parts_of_declares hk h hp
  rw [← exists_hasBlank_parts_iff, hparts, ← exists_hasBlank_parts_iff (s := d.subDirectory)]
  constructor
  · rintro ⟨p, hp, hb⟩
    rcases List.mem_append.1 hp with hp | hp
    · rcases List.mem_cons.1 hp with rfl | hp
      · exact absurd hb (not_hasBlank_area harea)
      · exact ⟨p, hp, hb⟩
    · exact absurd hb (h.not_hasBlank_below p hp)
  · rintro ⟨p, hp, hb⟩
    exact ⟨p, List.mem_append_left _ (List.mem_cons_of_mem _ hp), hb⟩

theorem hasBlank_name_buildPath_iff (h : Declares known s dir d n) {q : Path} :
    HasBlank (n.buildPath s q).name ↔ HasBlank q.name := by
  rcases Node.name_buildPath_cases (s := s) (q := q) h.isPlainName_variantId with he | ⟨hq, he⟩
  · rw [he]
  · rw [he, hq]
    exact iff_of_false h.not_hasBlank_variantId (by decide)

theorem aliases_eq (h : Declares known s dir d n) : n.aliases = d.symlinks := by
  cases h <;> rfl

theorem spaced_iff (hk : d.Keeps) (h : Declares known s dir d n) (hof : f.IsOf setSystemApart n) :
    f.Spaced ↔ d.Spaced := by
  have hfile : HasBlank f.builtFile.name ↔ ∃ q ∈ d.file?, HasBlank q.name := by
    obtain ⟨q, hq, he⟩ := Option.map_eq_some_iff.1 (h.builtFile?_eq ▸ hof.offers.builtFile)
    rw [← he, h.hasBlank_name_buildPath_iff, hq]
    simp
  rw [PackagedFile.Spaced, Declaration.Spaced, h.hasBlank_installDir_iff hk hof.offers.installDir,
    hfile, ← hof.offers.aliases, h.aliases_eq]
  exact or_left_comm

end Declares

end Declaration

namespace BundleModule

variable {b : BundleModule} {c : Collection} {s : Settings} {tree : FileTree} {plan : Plan}
  {act : Action} {contexts : Path}

def modesDescription : String := "generate fs config"

theorem Planned.work_of_description (h : Planned b c s contexts act)
    (hd : act.description = modesDescription) :
    act.work = .write (AccessModes.ofFiles c.files).table := by
  have hother {p x : String} (hp : ¬p.toList <+: modesDescription.toList) :
      p ++ x ≠ modesDescription := append_ne_of_not_begins hp x
  cases h with
  | staging payload => exact absurd hd (hother (p := "stage ") (by decide))
  | image ha =>
    simp only [imageActions, List.mem_cons, List.not_mem_nil, or_false] at ha
    rcases ha with rfl | rfl | rfl | rfl
    · rfl
    all_goals simp [makeAction, Payload.word, modesDescription] at hd
  | zip ha =>
    obtain rfl := List.mem_singleton.1 ha
    simp [makeAction, Payload.word, modesDescription] at hd
  | signing payload ha =>
    rcases mem_signActions_iff.1 ha with rfl | ⟨_, rfl⟩
    · simp [BundleModule.signing, modesDescription] at hd
    · exact absurd hd (hother (p := "install ") (by decide))
  | flattened _ _ ha =>
    rcases (mem_planFlattened_iff.1 ha).2 with rfl | ⟨_, f, _, rfl⟩
    · exact absurd hd (hother (p := "copy ") (by decide))
    · exact absurd hd (hother (p := "install ") (by decide))

theorem exists_modesAction (h : b.plan c s tree = .ok plan) {selection : PayloadSelection}
    (hs : b.selection = .ok selection) (hi : selection.hasImage = true) :
    ∃ act ∈ plan.actions, act.description = modesDescription := by
  obtain ⟨contexts, hacts⟩ := exists_actions_eq h hs
  obtain ⟨act, hm, hd⟩ : ∃ act ∈ b.imageActions c s contexts, act.description = modesDescription :=
    ⟨_, List.mem_cons_self, rfl⟩
  exact ⟨act, by simp [hacts, hi, planImage, hm], hd⟩

end BundleModule

namespace Workspace

variable {doc : Datum} {ds : List Declaration} {s₀ s : Settings} {dir : Path} {w w' : Workspace}
  {tree : FileTree} {names : List String} {a : Assembly} {o : Outcome} {plan : Plan}

/-- When the table of modes in the plan of an image can be read back: no file of the bundle has a
blank in its name, its directory or its links, and a file has one where its module is declared with
one. -/
theorem modes_read_back_iff (hd : Declaration.readDocument doc = .sound ds)
    (hw : ofDeclarations ds s₀ dir = .ok w) (ha : w.assemble s tree names = (w', .ok a))
    (ho : o ∈ a.outcomes) (hp : o.result = .ok plan) :
    (∀ selection, o.bundle.selection = .ok selection → selection.hasImage = true →
      ∃ act ∈ plan.actions, act.description = "generate fs config") ∧
    (∀ act ∈ plan.actions, act.description = "generate fs config" →
      ∃ content, act.work = .write content ∧
        ((AccessModes.ofFiles plan.files).ReadsBack content ↔ ∀ f ∈ plan.files, ¬f.Spaced)) ∧
    ∀ f ∈ plan.files, ∃ d ∈ ds, (∃ id, f.owner = some id ∧ id.name = d.name) ∧
      (f.Spaced ↔ d.Spaced) := by
  have hk := Declaration.keeps_of_readDocument hd
  have hs := sound_of_ofDeclarations hk hw
  have hg := assembled_of_assemble hs ha
  obtain ⟨_, _, c, _, hc, hplan, _⟩ := exists_of_outcome hs ha ho hp
  have hfiles := (BundleModule.plan_eq_ok hplan).1
  refine ⟨fun selection hsel hi => BundleModule.exists_modesAction hplan hsel hi,
    fun act hact hdesc => ?_, fun f hf => ?_⟩
  · obtain ⟨contexts, hplanned⟩ := BundleModule.planned_of_mem_actions hplan
    refine ⟨_, (hplanned act hact).work_of_description hdesc, ?_⟩
    rw [hfiles]
    exact PackagedFile.readsBack_ofFiles_iff fun f hf => Collection.settled_of_mem hc hf
  · rw [hfiles] at hf
    obtain ⟨n, hn, hof⟩ := Collection.exists_owner hg.settled hc hf
    rw [hof.owner, Option.bind_some] at hn
    obtain ⟨d, hmem, known, hdecl⟩ := Assembled.exists_declaration hw hg hn
    exact ⟨d, hmem, ⟨n.key, hof.owner, hdecl.name_eq⟩, hdecl.spaced_iff (hk d hmem) hof⟩

theorem modes_read_back_iff_layered :
    ∃ ds w w' a o plan, Declaration.readDocument layered = .sound ds ∧
      ofDeclarations ds layeredSettings .here = .ok w ∧
      w.assemble layeredSettings layeredTree [] = (w', .ok a) ∧ o ∈ a.outcomes ∧
      o.result = .ok plan ∧ ∀ act ∈ plan.actions, act.description = "generate fs config" →
        ∃ content, act.work = .write content ∧
          (AccessModes.ofFiles plan.files).ReadsBack content := by
  obtain ⟨ds, w, w', a, o, plan, hd, hw, ha, ho, _, hp⟩ := exists_plan exists_outcome_layered
  obtain ⟨_, hwritten, howner⟩ := modes_read_back_iff hd hw ha ho hp
  have hall : ∀ ds ∈ (Declaration.readDocument layered).toExcept.toOption.toList,
      ∀ d ∈ ds, ¬d.Spaced := by
    decide +kernel
  replace hall := hall ds (Checked.mem_toExcept hd)
  refine ⟨ds, w, w', a, o, plan, hd, hw, ha, ho, hp, fun act hact hdesc => ?_⟩
  obtain ⟨content, hwork, hiff⟩ := hwritten act hact hdesc
  refine ⟨content, hwork, hiff.2 fun f hf hspaced => ?_⟩
  obtain ⟨d, hmem, _, hd⟩ := howner f hf
  exact hall d hmem (hd.1 hspaced)

end Workspace

def spacedName : Datum := .obj [("modules", .arr [
  .obj [("type", .str "prebuilt_etc"), ("name", .str "c"), ("src", .str "s"),
    ("filename", .str "a b")],
  .obj [("type", .str "apex_key"), ("name", .str "k"), ("public_key", .str "p"),
    ("private_key", .str "q")],
  .obj [("type", .str "apex"), ("name", .str "z"), ("key", .str "k"),
    ("prebuilts", .arr [.str "c"])]])]

def spacedTable : String :=
  "/ 1000 1000 0755\n/apex_manifest.json 1000 1000 0644\n" ++
    "/etc/a b 1000 1000 0644\n/etc 0 2000 0755\n"

/-- The line of a file with a blank in its name has five fields, and the file is not read back. -/
theorem Workspace.modes_lost_spacedName :
    ∃ ds w w' a o plan, Declaration.readDocument spacedName = .sound ds ∧
      ofDeclarations ds sharedStemSettings .here = .ok w ∧
      w.assemble sharedStemSettings layeredTree [] = (w', .ok a) ∧ o ∈ a.outcomes ∧ o.ok = true ∧
      o.result = .ok plan ∧ ∃ act ∈ plan.actions, act.description = "generate fs config" ∧
        act.work = .write spacedTable ∧
        (∃ line ∈ Text.lines spacedTable, (Text.words line).length = 5) ∧
        ¬(AccessModes.ofFiles plan.files).ReadsBack spacedTable := by
  have hfact : ∃ o ∈ outcomesOf spacedName sharedStemSettings .here layeredTree, o.ok = true ∧
      ∃ plan ∈ o.result.toOption, ∃ act ∈ plan.actions, act.description = "generate fs config" ∧
        act.work = .write spacedTable ∧
        AccessModes.ofTable spacedTable ≠ AccessModes.ofFiles plan.files := by
    decide +kernel
  obtain ⟨o, ho, hok, plan, hplan, act, hact, hdesc, hwork, hmodes⟩ := hfact
  obtain ⟨ds, w, w', a, hd, hw, ha, ho⟩ := exists_of_mem_outcomesOf ho
  exact ⟨ds, w, w', a, o, plan, hd, hw, ha, ho, hok, eq_ok_of_toOption hplan, act, hact, hdesc,
    hwork, by decide +kernel, fun h => hmodes h.modes⟩

end BundleWright
