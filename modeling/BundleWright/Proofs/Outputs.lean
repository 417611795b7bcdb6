import BundleWright.Proofs.Installation
import Mathlib.Data.List.Pairwise
/-!
What the actions of a plan make. Main statement: they make no path twice, and nothing but the
copies of the staging lies in a staged directory, unless the bundle is named as these directories
are.
-/
namespace BundleWright

open BundleWright.Path

namespace Path

variable {a a' p q : Path}

theorem mem_lineage_div (h : a ∈ p.lineage) (hq : q.root = .none) : a ∈ (p / q).lineage := by
  rw [mem_lineage_iff] at h ⊢
  rw [join_root_of_relative hq, join_parts_of_relative hq]
  exact ⟨h.1, h.2.trans (List.prefix_append _ _)⟩

theorem not_mem_lineage_of_apart (h : Apart a a') (hp : a ∈ p.lineage) : a' ∉ p.lineage := by
  intro hp'
  rw [mem_lineage_iff] at hp hp'
  have hroot : a.root = a'.root := hp.1.trans hp'.1.symm
  rcases List.prefix_or_prefix_of_prefix hp.2 hp'.2 with hl | hl
  · exact h.2.1 ⟨hroot, hl, h.1⟩
  · exact h.2.2 ⟨hroot.symm, hl, h.1.symm⟩

theorem mem_lineage_trans (h : a ∈ p.lineage) (hp : p ∈ q.lineage) : a ∈ q.lineage := by
  rw [mem_lineage_iff] at h hp ⊢
  exact ⟨h.1.trans hp.1, h.2.trans hp.2⟩

theorem mem_lineage_self (p : Path) : p ∈ p.lineage :=
  mem_lineage_iff.2 ⟨rfl, List.prefix_refl _⟩

end Path

theorem exists_of_word_eq_stage {w : Work} (h : w.word = "stage") :
    ∃ copies links, w = .stage copies links := by
  cases w with
  | stage copies links => exact ⟨copies, links, rfl⟩
  | _ => simp [Work.word] at h

theorem eq_of_mem_outputs {acts : List Action} (h : (acts.flatMap (·.outputs)).Nodup)
    {act act' : Action} (hact : act ∈ acts) (hact' : act' ∈ acts) {o : Path} (ho : o ∈ act.outputs)
    (ho' : o ∈ act'.outputs) : act = act' := by
  by_contra hne
  have : Std.Symm (Function.onFun List.Disjoint Action.outputs) :=
    ⟨fun _ _ hd _ hy hx => hd hx hy⟩
  exact (List.nodup_flatMap.1 h).2.forall hact hact' hne ho ho'

theorem Collection.place_ne_manifest {g : ModuleGraph} {b : BundleModule} {s : Settings}
    {c : Collection} (h : ofBundle g b s = .ok c) :
    ∀ f ∈ c.files, f.place ≠ ofString Bundle.defaultManifest := by
  intro f hf he
  obtain ⟨_, n, _, hof⟩ := exists_isOf h hf
  have hmem : f.place.parts ∈ n.places b.setsSystemApart := by
    rw [← hof.map_parts_places]
    exact List.mem_cons_self
  obtain ⟨area, harea, hhead⟩ := Node.exists_head?_directory hmem
  have hplace : f.place.parts.head? = some area := by
    rw [f.parts_place_eq, hof.offers.parts_installDir f.inside, List.head?_append, hhead]
    rfl
  have hmanifest : (ofString Bundle.defaultManifest).parts.head? = some "apex_manifest.json" := by
    decide +kernel
  rw [he, hmanifest, Option.some.injEq] at hplace
  subst hplace
  simp at harea

theorem PackagedFile.nodup_pathInBundle_iff {files : List PackagedFile} :
    (files.map (·.pathInBundle)).Nodup ↔ (files.map (·.place)).Nodup := by
  have htext : files.map (·.pathInBundle) = (files.map (·.place)).map Path.text := by
    rw [List.map_map]
    rfl
  rw [htext]
  exact ⟨fun h => h.of_map, fun h => h.map fun _ _ => text_injective⟩

theorem Collection.nodup_pathInBundle {g : ModuleGraph} {b : BundleModule} {s : Settings}
    {c : Collection} (h : ofBundle g b s = .ok c)
    (hd : ((PackagedFile.dropRepeated (Findings.ofBundle g s b).files).map (·.place)).Nodup) :
    (c.files.map (·.pathInBundle)).Nodup := by
  have hsame (bundle : String) (files : List PackagedFile) :
      (PackagedFile.namespaced bundle files).map (·.place) = files.map (·.place) := by
    rw [PackagedFile.namespaced, List.map_map]
    rfl
  rw [PackagedFile.nodup_pathInBundle_iff, files_of_ofBundle h,
    ((normalised_perm _ _).map _).nodup_iff, hsame]
  exact hd

/-- Whether the actions of a plan make different things, and whether only the staging puts anything
into a staged directory. -/
structure Plan.KeepsApart (p : Plan) : Prop where
  distinct : (p.actions.flatMap (·.outputs)).Nodup
  clear : ∀ stage ∈ p.actions, stage.work.word = "stage" → ∀ act ∈ p.actions,
    act.work.word ≠ "stage" → ∀ dir ∈ stage.outputs, ∀ o ∈ act.outputs, dir ∉ o.lineage

inductive OutputName where
  | fixed (name : String)
  | named (ending : String)
  deriving DecidableEq

namespace OutputName

def text (bundle : String) : OutputName → String
  | fixed name => name
  | named ending => bundle ++ ending

def ofPayload : Payload → List OutputName
  | .zip => [.fixed "image.zipapex", .named ".zipapex.unsigned", .named ".zipapex"]
  | .image => [.fixed "image.apex", .fixed "canned_fs_config", .named ".apex.unsigned",
      .named ".pb.apex", .named ".apex-base.zip", .named ".apex"]

def all : List OutputName :=
  ofPayload .zip ++ ofPayload .image ++ [.fixed Bundle.defaultManifest]

def name? : OutputName → Option String
  | fixed name => some name
  | named _ => none

def ending? : OutputName → Option String
  | fixed _ => none
  | named ending => some ending

variable {bundle : String} {x y : OutputName}

theorem isPlainName_text (hb : '/' ∉ bundle.toList) (hx : x ∈ all) :
    isPlainName (x.text bundle) = true := by
  have hall : ∀ x ∈ all, 3 ≤ (x.text "").toList.length ∧ '/' ∉ (x.text "").toList := by
    decide +kernel
  obtain ⟨hlen, hslash⟩ := hall x hx
  cases x with
  | fixed name => exact isPlainName_of_long hslash hlen
  | named ending =>
    simp only [text, String.empty_append] at hlen hslash
    refine isPlainName_of_long ?_ ?_
    · simp [text, hb, hslash]
    · simp only [text, String.toList_append, List.length_append]
      omega

theorem isComponent_text (hb : '/' ∉ bundle.toList) (hx : x ∈ all) :
    IsComponent (x.text bundle) :=
  isComponent_of_isPlainName (isPlainName_text hb hx)

/-- An ending ends a fixed name only after the name of the staged directories. -/
theorem eq_image_of_append_eq {ending name : String} (he : named ending ∈ all)
    (hn : fixed name ∈ all) (h : bundle ++ ending = name) : bundle = "image" := by
  have hends : ∀ e ∈ all.filterMap ending?, ∀ n ∈ all.filterMap name?,
      e.toList <:+ n.toList → "image" ++ e = n := by
    decide +kernel
  have himage := hends ending (List.mem_filterMap.2 ⟨_, he, rfl⟩) name
    (List.mem_filterMap.2 ⟨_, hn, rfl⟩) ⟨bundle.toList, by rw [← h, String.toList_append]⟩
  exact (String.append_left_inj _).1 (h.trans himage.symm)

theorem text_injective (hb : bundle ≠ "image") (hx : x ∈ all) (hy : y ∈ all)
    (h : x.text bundle = y.text bundle) : x = y := by
  cases x with
  | fixed name =>
    cases y with
    | fixed name' => exact congrArg fixed h
    | named ending => exact absurd (eq_image_of_append_eq hy hx h.symm) hb
  | named ending =>
    cases y with
    | fixed name => exact absurd (eq_image_of_append_eq hx hy h) hb
    | named ending' => exact congrArg named ((String.append_right_inj _).1 h)

end OutputName

namespace BundleModule

variable {b : BundleModule} {c : Collection} {s : Settings} {tree : FileTree} {plan : Plan}
  {selection : PayloadSelection} {certificate : Certificate} {contexts : Path} {x y : OutputName}

def output (b : BundleModule) (s : Settings) (x : OutputName) : Path := b.outDir s / x.text b.name

theorem parts_output (hn : '/' ∉ b.name.toList) (hx : x ∈ OutputName.all) :
    (b.output s x).parts = (b.outDir s).parts ++ [x.text b.name] :=
  parts_div_component (OutputName.isComponent_text hn hx)

theorem output_injective (hn : '/' ∉ b.name.toList) (hne : b.name ≠ "image")
    (hx : x ∈ OutputName.all) (hy : y ∈ OutputName.all) (h : b.output s x = b.output s y) :
    x = y := by
  have hparts := congrArg Path.parts h
  rw [parts_output hn hx, parts_output hn hy, List.append_cancel_left_eq, List.singleton_inj]
    at hparts
  exact OutputName.text_injective hne hx hy hparts

theorem payloadPath_eq (payload : Payload) (x : OutputName) (stem tail : String)
    (h : stem ++ payload.ending ++ tail = x.text b.name) :
    b.payloadPath s payload stem tail = b.output s x := by
  rw [payloadPath, h, output]

theorem text_named (e tail : String) :
    b.name ++ e ++ tail = (OutputName.named (e ++ tail)).text b.name :=
  String.append_assoc

theorem outputs_signActions (payload : Payload) :
    ((b.signActions certificate s payload).filter (!·.install)).flatMap (·.outputs) =
      [b.signed s payload] := by
  unfold signActions
  split <;> simp

theorem outputs_planZip : ((b.planZip c certificate s).filter (!·.install)).flatMap (·.outputs) =
    (OutputName.ofPayload .zip).map (b.output s) := by
  have hstaging : b.stagingDir s .zip = b.output s (.fixed "image.zipapex") :=
    payloadPath_eq .zip _ _ _ rfl
  have hunsigned : b.unsigned s .zip = b.output s (.named ".zipapex.unsigned") :=
    payloadPath_eq .zip _ _ _ (text_named _ _)
  have hsigned : b.signed s .zip = b.output s (.named ".zipapex") :=
    payloadPath_eq .zip _ _ _ (text_named _ _)
  rw [planZip, List.filter_append, List.flatMap_append, outputs_signActions]
  simp [Action.staging, zipActions, makeAction, OutputName.ofPayload, hstaging, hunsigned, hsigned]

theorem outputs_planImage :
    ((b.planImage c certificate s contexts).filter (!·.install)).flatMap (·.outputs) =
      (OutputName.ofPayload .image).map (b.output s) := by
  have hstaging : b.stagingDir s .image = b.output s (.fixed "image.apex") :=
    payloadPath_eq .image _ _ _ rfl
  have hunsigned : b.unsigned s .image = b.output s (.named ".apex.unsigned") :=
    payloadPath_eq .image _ _ _ (text_named _ _)
  have hconverted : b.converted s = b.output s (.named ".pb.apex") :=
    payloadPath_eq .image _ _ _ (String.append_empty.trans (text_named _ _))
  have hrepacked : b.repacked s = b.output s (.named ".apex-base.zip") :=
    payloadPath_eq .image _ _ _ (text_named _ _)
  have hsigned : b.signed s .image = b.output s (.named ".apex") :=
    payloadPath_eq .image _ _ _ (text_named _ _)
  rw [planImage, List.filter_append, List.flatMap_append, outputs_signActions]
  simp [Action.staging, imageActions, makeAction, OutputName.ofPayload, hstaging, hunsigned,
    hconverted, hrepacked, hsigned, accessTable, output, OutputName.text]

theorem outputs_planFlattened (files : List PackagedFile) :
    ((b.planFlattened files s).1.filter (!·.install)).flatMap (·.outputs) =
      if b.node.bundle.isInstallable then [b.output s (.fixed Bundle.defaultManifest)] else [] := by
  have hnone : ((files ++ [b.flattenedManifest s]).map (b.installFlattened s)).filter
      (!·.install) = [] := by
    refine List.filter_eq_nil_iff.2 fun act hact => ?_
    obtain ⟨f, _, rfl⟩ := List.mem_map.1 hact
    simp [installFlattened]
  have hmanifest : (b.flattenedManifest s).builtFile =
      b.output s (.fixed Bundle.defaultManifest) := rfl
  unfold planFlattened
  cases b.node.bundle.isInstallable <;> cases s.flattenApex <;> simp_all

/-- What a plan makes before it installs has different names in the directory of the bundle. -/
theorem built_sublist (h : b.plan c s tree = .ok plan) :
    ((plan.actions.filter (!·.install)).flatMap (·.outputs)).Sublist
      (OutputName.all.map (b.output s)) := by
  obtain ⟨selection, hs⟩ := exists_selection h
  obtain ⟨contexts, hacts⟩ := exists_actions_eq h hs
  rw [hacts, OutputName.all, List.filter_append, List.flatMap_append, List.append_assoc,
    List.map_append]
  refine List.Sublist.append ?_ ?_
  · split
    · rw [outputs_planZip]
    · simp
  · split
    · rw [List.filter_append, List.flatMap_append, outputs_planImage, outputs_planFlattened,
        List.map_append]
      refine (List.Sublist.refl _).append ?_
      split <;> simp
    · simp

theorem nodup_built (hn : '/' ∉ b.name.toList) (hne : b.name ≠ "image")
    (h : b.plan c s tree = .ok plan) :
    ((plan.actions.filter (!·.install)).flatMap (·.outputs)).Nodup := by
  refine (built_sublist h).nodup (List.Nodup.map_on ?_ (by decide))
  exact fun x hx y hy => output_injective hn hne hx hy

theorem exists_of_mem_built (h : b.plan c s tree = .ok plan) {act : Action}
    (hact : act ∈ plan.actions) (hi : act.install = false) {o : Path} (ho : o ∈ act.outputs) :
    ∃ x ∈ OutputName.all, o = b.output s x := by
  have hmem : o ∈ (plan.actions.filter (!·.install)).flatMap (·.outputs) :=
    List.mem_flatMap.2 ⟨act, List.mem_filter.2 ⟨hact, by simp [hi]⟩, ho⟩
  obtain ⟨x, hx, rfl⟩ := List.mem_map.1 ((built_sublist h).subset hmem)
  exact ⟨x, hx, rfl⟩

theorem mem_installedFiles_of_install {act : Action} (hact : act ∈ plan.actions)
    (hi : act.install = true) {o : Path} (ho : o ∈ act.outputs) : o ∈ plan.installedFiles :=
  List.mem_flatMap.2 ⟨act, List.mem_filter.2 ⟨hact, hi⟩, ho⟩

theorem nodup_archives (hn : '/' ∉ b.name.toList) (selection : PayloadSelection) :
    (selection.payloads.map fun (p : Payload) => s.installDir / (b.name ++ p.ending)).Nodup := by
  have hp : selection.payloads.Nodup := by cases selection <;> decide
  refine hp.map fun p q he => ?_
  have hparts := congrArg Path.parts he
  simp only [parts_div_component (isComponent_archive hn _), List.append_cancel_left_eq,
    List.singleton_inj, String.append_right_inj] at hparts
  cases p <;> cases q <;> simp_all [Payload.ending]

theorem nodup_tree (hm : ∀ f ∈ c.files, f.place ≠ ofString Bundle.defaultManifest)
    (hd : (c.files.map (·.pathInBundle)).Nodup) :
    ((c.files ++ [b.flattenedManifest s]).map fun f => b.treeRoot s / f.place).Nodup := by
  have hplaces := PackagedFile.nodup_pathInBundle_iff.1 hd
  have hall : ((c.files ++ [b.flattenedManifest s]).map (·.place)).Nodup := by
    rw [List.map_append, List.map_singleton, place_flattenedManifest, ← List.concat_eq_append]
    refine hplaces.concat fun hmem => ?_
    obtain ⟨f, hf, he⟩ := List.mem_map.1 hmem
    exact hm f hf he
  refine List.Nodup.map_on (fun f hf f' hf' he => ?_) hall.of_map
  rw [div_eq_div_iff f.root_place f'.root_place] at he
  exact List.inj_on_of_nodup_map hall hf hf' he

theorem nodup_installedFiles (hn : '/' ∉ b.name.toList)
    (hm : ∀ f ∈ c.files, f.place ≠ ofString Bundle.defaultManifest)
    (hd : (c.files.map (·.pathInBundle)).Nodup) (h : b.plan c s tree = .ok plan) :
    plan.installedFiles.Nodup := by
  obtain ⟨selection, hs⟩ := exists_selection h
  by_cases ht : b.InstallsTree s
  · rw [installedFiles_eq_places h ht]
    exact nodup_tree hm hd
  · rw [Plan.installedFiles, filter_install_actions h hs]
    split
    · next hi =>
      split
      · next hf =>
        rw [if_neg fun himage => ht ⟨hi, hf, selection, hs, himage⟩]
        exact List.nodup_nil
      · have he : (selection.payloads.map (b.installArchive s)).flatMap (·.outputs) =
            selection.payloads.map fun (p : Payload) => s.installDir / (b.name ++ p.ending) := by
          rw [List.flatMap_map, List.map_eq_flatMap]
          rfl
        rw [he]
        exact nodup_archives hn selection
    · exact List.nodup_nil

theorem root_outDir (hos : b.target.os ∈ TargetOs.all.map TargetOs.word) :
    (ofString (b.target.variantName ++ "_" ++ b.name)).root = .none := by
  obtain ⟨os, hos, he⟩ := List.mem_map.1 hos
  have hbegins : ∃ t, b.target.variantName ++ "_" ++ b.name = os.word ++ t := by
    unfold Target.variantName
    rw [he]
    split
    · exact ⟨"_" ++ b.target.arch ++ "_" ++ b.name, by simp [String.append_assoc]⟩
    · exact ⟨"_" ++ b.target.arch ++ "_native_bridge" ++ "_" ++ b.name,
        by simp [String.append_assoc]⟩
  have hfirst : ∃ ch cs, os.word.toList = ch :: cs ∧ ch ≠ '/' := by
    cases os <;> exact ⟨_, _, rfl, by decide⟩
  obtain ⟨t, ht⟩ := hbegins
  obtain ⟨ch, cs, hword, hch⟩ := hfirst
  have hroot : Root.ofChars (ch :: cs ++ t.toList) = .none := ofChars_text .none hch _
  rw [← hword, ← String.toList_append, ← ht] at hroot
  exact hroot

theorem outDir_mem_lineage (hn : '/' ∉ b.name.toList)
    (hos : b.target.os ∈ TargetOs.all.map TargetOs.word) (hx : x ∈ OutputName.all) :
    s.outDir ∈ (b.output s x).lineage := by
  have htext : (ofString (x.text b.name)).root = .none := by
    rw [ofString_component (OutputName.isComponent_text hn hx)]
  exact mem_lineage_div (mem_lineage_div (mem_lineage_div (mem_lineage_self _)
    (ofString_of_not_mem hn).1) (root_outDir hos)) htext

theorem installRoot_mem_lineage (hn : '/' ∉ b.name.toList) (h : b.plan c s tree = .ok plan)
    {q : Path} (hq : q ∈ plan.installedFiles) : s.installRoot ∈ q.lineage := by
  have hdir : s.installRoot ∈ s.installDir.lineage :=
    mem_lineage_div (mem_lineage_self _) (by decide +kernel)
  rcases exists_of_mem_installedFiles h hq with ⟨payload, rfl⟩ | ⟨_, f, _, rfl⟩
  · refine mem_lineage_div hdir ?_
    rw [ofString_component (isComponent_archive hn payload)]
  · rw [PackagedFile.destination_eq]
    exact mem_lineage_div (mem_lineage_div hdir (ofString_of_not_mem hn).1) f.root_place

theorem apart_treeSettings (unbundled : Bool) :
    Apart (treeSettings unbundled).outDir (treeSettings unbundled).installRoot := by
  cases unbundled <;> exact ⟨by decide +kernel, by decide +kernel, by decide +kernel⟩

theorem not_keepsApart_of_image (hn : b.name = "image") (h : b.plan c s tree = .ok plan) :
    ¬plan.KeepsApart := by
  intro hk
  obtain ⟨payload, hstage, hsign⟩ := exists_payload h
  have hsigning := hsign _ (mem_signActions_iff.2 (.inl rfl))
  have hsame : b.stagingDir s payload = b.signed s payload := by
    rw [stagingDir, signed, hn]
  have hwork : (b.signing (b.certificate c.certificate s) s payload).work.word ≠ "stage" := by
    simp [signing, Work.word]
  exact hk.clear _ hstage rfl _ hsigning hwork _ (List.mem_singleton_self _) _
    (List.mem_singleton_self _) (hsame ▸ mem_lineage_self _)

theorem keepsApart_of_apart (hn : '/' ∉ b.name.toList)
    (hos : b.target.os ∈ TargetOs.all.map TargetOs.word) (hne : b.name ≠ "image")
    (hm : ∀ f ∈ c.files, f.place ≠ ofString Bundle.defaultManifest)
    (hd : (c.files.map (·.pathInBundle)).Nodup) (ha : Apart s.outDir s.installRoot)
    (h : b.plan c s tree = .ok plan) : plan.KeepsApart := by
  have hbuilt {act : Action} (hact : act ∈ plan.actions) (hi : act.install = false) {o : Path}
      (ho : o ∈ act.outputs) : s.outDir ∈ o.lineage := by
    obtain ⟨x, hx, rfl⟩ := exists_of_mem_built h hact hi ho
    exact outDir_mem_lineage hn hos hx
  have hdistinct : (plan.actions.flatMap (·.outputs)).Nodup := by
    have hperm := (List.filter_append_perm (·.install) plan.actions).flatMap_right (·.outputs)
    rw [← hperm.nodup_iff, List.flatMap_append, List.nodup_append']
    refine ⟨nodup_installedFiles hn hm hd h, nodup_built hn hne h, fun o ho ho' => ?_⟩
    obtain ⟨act, hact, ho'⟩ := List.mem_flatMap.1 ho'
    obtain ⟨hact, hi⟩ := List.mem_filter.1 hact
    exact not_mem_lineage_of_apart ha (hbuilt hact (by simpa using hi) ho')
      (installRoot_mem_lineage hn h ho)
  refine ⟨hdistinct, fun stage hstage hs act hact hw dir hdir o ho hin => ?_⟩
  have hstaged : stage.install = false := by
    obtain ⟨copies, links, hwork⟩ := exists_of_word_eq_stage hs
    obtain ⟨payload, rfl⟩ := eq_staging_of_mem_actions h hstage hwork
    rfl
  by_cases hi : act.install = true
  · exact not_mem_lineage_of_apart ha (mem_lineage_trans (hbuilt hstage hstaged hdir) hin)
      (installRoot_mem_lineage hn h (mem_installedFiles_of_install hact hi ho))
  · -- two names in one directory do not lie below one another, so the two actions make one path
    obtain ⟨x, hx, rfl⟩ := exists_of_mem_built h hstage hstaged hdir
    obtain ⟨y, hy, rfl⟩ := exists_of_mem_built h hact (by simpa using hi) ho
    have hone : b.output s x = b.output s y := by
      have hlen : (b.output s x).parts.length = (b.output s y).parts.length := by
        rw [parts_output hn hx, parts_output hn hy, List.length_append, List.length_append]
        rfl
      rw [mem_lineage_iff] at hin
      exact ext_iff'.2 ⟨hin.1, hin.2.eq_of_length hlen⟩
    obtain rfl := eq_of_mem_outputs hdistinct hstage hact hdir (hone ▸ ho)
    exact hw hs

/-- The actions of a plan make no path twice and keep out of what is staged, if the collected files
have places of their own, and what is built and what is installed are apart: unless the bundle is
named as staged directories are, for then its signed archive is one of these. -/
theorem keepsApart_iff {g : ModuleGraph} {b' : BundleModule} {s' : Settings}
    (hn : Declaration.matchesName b.name.toList = true)
    (hos : b.target.os ∈ TargetOs.all.map TargetOs.word)
    (hc : Collection.ofBundle g b' s' = .ok c) (hd : (c.files.map (·.pathInBundle)).Nodup)
    (ha : Apart s.outDir s.installRoot) (h : b.plan c s tree = .ok plan) :
    plan.KeepsApart ↔ b.name ≠ "image" := by
  refine ⟨fun hk hname => not_keepsApart_of_image hname h hk, fun hne => ?_⟩
  exact keepsApart_of_apart (Declaration.not_mem_of_matchesName hn) hos hne
    (Collection.place_ne_manifest hc) hd ha h

theorem keepsApart_iff_ring :
    ∃ c plan, Collection.ofBundle Collection.ring Collection.ringBundle (treeSettings false) =
        .ok c ∧
      Collection.ringBundle.plan c (treeSettings false) layeredTree = .ok plan ∧
      plan.KeepsApart := by
  have hkey : (Findings.ofBundle Collection.ring (treeSettings false)
      Collection.ringBundle).keyFile = some .here := by
    decide +kernel
  obtain ⟨c, hc⟩ := Collection.exists_ofBundle hkey
  obtain ⟨plan, hplan⟩ := exists_plan_ring c false
  have hd := Collection.nodup_pathInBundle hc (by decide +kernel)
  exact ⟨c, plan, hc, hplan,
    (keepsApart_iff (by decide +kernel) (by decide) hc hd (apart_treeSettings false) hplan).2
      (by decide)⟩

def imageBundle : BundleModule where
  name := "image"
  target := TargetOs.android.common
  node := ⟨{ name := "image", properties := { payloadType := some "zip" } }, [], .here⟩

def imageGraph : ModuleGraph where
  members := [⟨⟨"k", "android_common"⟩, ⟨"k", TargetOs.android.common, [], coreImage, .key {}⟩⟩,
    ⟨imageBundle.id, imageBundle.toNode⟩]
  edges := [⟨imageBundle.id, ⟨"k", "android_common"⟩, .key, imageBundle.id⟩]

theorem staging_overwritten_image :
    Declaration.matchesName imageBundle.name.toList = true ∧
      Apart (treeSettings false).outDir (treeSettings false).installRoot ∧
      ∃ c plan, Collection.ofBundle imageGraph imageBundle (treeSettings false) = .ok c ∧
        (c.files.map (·.pathInBundle)).Nodup ∧
        imageBundle.plan c (treeSettings false) layeredTree = .ok plan ∧ ¬plan.KeepsApart := by
  have hkey : (Findings.ofBundle imageGraph (treeSettings false) imageBundle).keyFile =
      some .here := by
    decide +kernel
  obtain ⟨c, hc⟩ := Collection.exists_ofBundle hkey
  have hs : imageBundle.selection = .ok .zip := by decide
  obtain ⟨plan, hplan⟩ : ∃ plan, imageBundle.plan c (treeSettings false) layeredTree = .ok plan :=
    exists_plan hs (fun himage => absurd himage (by decide)) c
  exact ⟨by decide +kernel, apart_treeSettings false, c, plan, hc,
    Collection.nodup_pathInBundle hc (by decide +kernel), hplan, not_keepsApart_of_image rfl hplan⟩

end BundleModule

end BundleWright
