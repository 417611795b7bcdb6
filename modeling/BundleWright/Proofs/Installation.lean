import BundleWright.Proofs.Containment
import Mathlib.Data.List.Forall2
/-!
What a plan installs. Main statements: which actions install depends on the bundle and on whether
the build asks for trees, not on the mark of the plan; the tree of an image holds the copied files
of the staged one at the same places and its manifest, but no links.
-/
namespace BundleWright

open BundleWright.Path

def PayloadSelection.payloads (p : PayloadSelection) : List Payload :=
  (if p.hasZip then [.zip] else []) ++ if p.hasImage then [.image] else []

structure Action.Copies (act : Action) (source dest : Path) : Prop where
  work : act.work = .copy
  inputs : act.inputs = [source]
  outputs : act.outputs = [dest]

/-- Whether an action copies the file of a staged copy to the same place below another directory. -/
def Action.Repeats (act : Action) (copy : FileCopy) (image root : Path) : Prop :=
  ∃ place : Path, place.root = .none ∧ copy.dest = image / place ∧
    act.Copies copy.source (root / place)

theorem PackagedFile.destination_eq_pathInBundle (f : PackagedFile) (dir : Path) :
    f.destination dir = dir / f.pathInBundle := by
  have h : ofString f.pathInBundle = f.place := ofString_text _
  rw [destination_eq, ← h]
  rfl

namespace BundleModule

variable {b : BundleModule} {c : Collection} {s : Settings} {tree : FileTree} {plan : Plan}
  {selection : PayloadSelection} {certificate : Certificate} {contexts : Path}

theorem filter_install_signActions (payload : Payload) :
    (b.signActions certificate s payload).filter (·.install) =
      if b.node.bundle.isInstallable && !s.flattenApex then [b.installArchive s payload]
      else [] := by
  unfold signActions
  split <;> simp [installArchive]

theorem filter_install_planZip : (b.planZip c certificate s).filter (·.install) =
    if b.node.bundle.isInstallable && !s.flattenApex then [b.installArchive s .zip] else [] := by
  rw [planZip, List.filter_append, filter_install_signActions]
  simp [Action.staging, zipActions, makeAction]

theorem filter_install_planImage : (b.planImage c certificate s contexts).filter (·.install) =
    if b.node.bundle.isInstallable && !s.flattenApex then [b.installArchive s .image] else [] := by
  rw [planImage, List.filter_append, filter_install_signActions]
  simp [Action.staging, imageActions, makeAction]

theorem filter_install_planFlattened (files : List PackagedFile) :
    (b.planFlattened files s).1.filter (·.install) =
      if b.node.bundle.isInstallable && s.flattenApex then
        (files ++ [b.flattenedManifest s]).map (b.installFlattened s)
      else [] := by
  have hall : ((files ++ [b.flattenedManifest s]).map (b.installFlattened s)).filter (·.install) =
      (files ++ [b.flattenedManifest s]).map (b.installFlattened s) := by
    refine List.filter_eq_self.2 fun act hact => ?_
    obtain ⟨f, _, rfl⟩ := List.mem_map.1 hact
    rfl
  unfold planFlattened
  cases b.node.bundle.isInstallable <;> cases s.flattenApex <;> simp_all

theorem plan_eq_ok_outputs (h : b.plan c s tree = .ok plan) (hs : b.selection = .ok selection) :
    plan.outputs = (selection.payloads.map fun p => (p, b.signed s p)) ∧
      plan.flattened = s.flattened ∧
      (selection.hasImage = true → plan.flattenedFiles = (b.planFlattened c.files s).2) := by
  obtain ⟨selection', hs', h⟩ := exists_of_bind_eq_ok h
  obtain rfl : selection = selection' :=
    Except.ok.inj (hs.symm.trans (exists_of_mapError_eq_ok hs'))
  have hpayloads : (selection.payloads.map fun p => (p, b.signed s p)) =
      (if selection.hasZip then [(Payload.zip, b.signed s .zip)] else []) ++
        if selection.hasImage then [(.image, b.signed s .image)] else [] := by
    cases selection <;> rfl
  rw [hpayloads]
  simp only at h
  split at h
  · next hi =>
    obtain ⟨_, _, h⟩ := exists_of_bind_eq_ok h
    cases h
    exact ⟨by simp [hi], rfl, fun _ => rfl⟩
  · next hi =>
    cases h
    exact ⟨by simp [hi], rfl, fun hi' => absurd hi' hi⟩

theorem filter_install_actions (h : b.plan c s tree = .ok plan)
    (hs : b.selection = .ok selection) :
    plan.actions.filter (·.install) =
      if b.node.bundle.isInstallable then
        if s.flattenApex then
          if selection.hasImage then
            (c.files ++ [b.flattenedManifest s]).map (b.installFlattened s)
          else []
        else selection.payloads.map (b.installArchive s)
      else [] := by
  obtain ⟨contexts, hacts⟩ := exists_actions_eq h hs
  rw [hacts]
  cases selection <;> cases hi : b.node.bundle.isInstallable <;> cases hf : s.flattenApex <;>
    simp [PayloadSelection.hasZip, PayloadSelection.hasImage, PayloadSelection.payloads,
      filter_install_planZip, filter_install_planImage, filter_install_planFlattened, hi, hf]

def treeRoot (b : BundleModule) (s : Settings) : Path := s.installRoot / "apex" / b.name

theorem copies_installFlattened (f : PackagedFile) :
    (b.installFlattened s f).Copies f.builtFile (b.treeRoot s / f.pathInBundle) where
  work := rfl
  inputs := rfl
  outputs := congrArg (fun p => [p]) (f.destination_eq_pathInBundle (b.treeRoot s))

theorem copies_installArchive (payload : Payload) :
    (b.installArchive s payload).Copies (b.signed s payload)
      (s.installRoot / "apex" / (b.name ++ payload.ending)) where
  work := rfl
  inputs := rfl
  outputs := rfl

theorem filter_install_of_installsTree (h : b.plan c s tree = .ok plan) (ht : b.InstallsTree s) :
    plan.actions.filter (·.install) =
      (c.files ++ [b.flattenedManifest s]).map (b.installFlattened s) := by
  obtain ⟨hi, hf, selection, hs, himage⟩ := ht
  rw [filter_install_actions h hs, if_pos hi, if_pos hf, if_pos himage]

theorem installedFiles_of_installsTree (h : b.plan c s tree = .ok plan) (ht : b.InstallsTree s) :
    plan.installedFiles = (c.files ++ [b.flattenedManifest s]).map
      fun (f : PackagedFile) => b.treeRoot s / f.pathInBundle := by
  have houtputs : (fun f => (b.installFlattened s f).outputs) =
      fun (f : PackagedFile) => [b.treeRoot s / f.pathInBundle] :=
    funext fun f => (copies_installFlattened f).outputs
  rw [Plan.installedFiles, filter_install_of_installsTree h ht, List.flatMap_map, houtputs,
    List.map_eq_flatMap]

theorem flattenedFiles_of_installsTree (h : b.plan c s tree = .ok plan) (ht : b.InstallsTree s) :
    plan.flattenedFiles = c.files ++ [b.flattenedManifest s] := by
  obtain ⟨hi, _, selection, hs, himage⟩ := ht
  rw [(plan_eq_ok_outputs h hs).2.2 himage, planFlattened, if_pos hi]

theorem exists_selection (h : b.plan c s tree = .ok plan) :
    ∃ selection, b.selection = .ok selection := by
  obtain ⟨_, _, selection, _, hs, _⟩ := plan_eq_ok h
  exact ⟨selection, hs⟩

theorem installedFiles_of_not_installable (h : b.plan c s tree = .ok plan)
    (hi : b.node.bundle.isInstallable = false) : plan.installedFiles = [] := by
  obtain ⟨selection, hs⟩ := exists_selection h
  rw [Plan.installedFiles, filter_install_actions h hs, hi]
  rfl

theorem signing_mem_actions (h : b.plan c s tree = .ok plan) (hs : b.selection = .ok selection)
    {payload : Payload} (hp : payload ∈ selection.payloads) :
    b.signing (b.certificate c.certificate s) s payload ∈ plan.actions := by
  obtain ⟨contexts, hacts⟩ := exists_actions_eq h hs
  have hsign : b.signing (b.certificate c.certificate s) s payload ∈
      b.signActions (b.certificate c.certificate s) s payload :=
    mem_signActions_iff.2 (.inl rfl)
  rw [hacts, List.mem_append]
  rcases List.mem_append.1 hp with hp | hp
  · split at hp
    · next hz =>
      obtain rfl := List.mem_singleton.1 hp
      exact .inl (by rw [if_pos hz]; exact List.mem_append_right _ hsign)
    · simp at hp
  · split at hp
    · next hi =>
      obtain rfl := List.mem_singleton.1 hp
      refine .inr ?_
      rw [if_pos hi]
      exact List.mem_append_left _ (List.mem_append_right _ hsign)
    · simp at hp

theorem exists_plan (hs : b.selection = .ok selection)
    (hc : selection.hasImage = true → ∃ contexts, b.fileContexts s tree = .ok contexts)
    (c : Collection) : ∃ plan, b.plan c s tree = .ok plan := by
  unfold plan
  rw [hs]
  simp only [Except.mapError, bind, Except.bind]
  split
  · next hi =>
    obtain ⟨contexts, hcontexts⟩ := hc hi
    rw [hcontexts]
    exact ⟨_, rfl⟩
  · exact ⟨_, rfl⟩

def treeSettings (unbundled : Bool) : Settings where
  sourceRoot := .here
  outDir := .ofString "out"
  installRoot := .ofString "install"
  flattenApex := true
  unbundledBuild := unbundled

def aliasedTool : Collection where
  bundle := "z"
  files := [⟨.ofString "out/t", "z.t", "bin", .nativeExecutable, ["u"], none, by decide +kernel,
    by decide +kernel⟩]
  keyFile := .here
  publicKeyFile := none
  certificate := none
  errors := []

theorem installsTree_ring (unbundled : Bool) :
    Collection.ringBundle.InstallsTree (treeSettings unbundled) :=
  ⟨by decide, rfl, .image, by decide, rfl⟩

theorem exists_plan_ring (c : Collection) (unbundled : Bool) :
    ∃ plan, Collection.ringBundle.plan c (treeSettings unbundled) layeredTree = .ok plan := by
  have h : (Collection.ringBundle.fileContexts (treeSettings unbundled)
      layeredTree).toOption.isSome = true := by
    cases unbundled <;> decide +kernel
  have hs : Collection.ringBundle.selection = .ok .image := by decide
  exact exists_plan hs (fun _ => exists_of_toOption_isSome h) c

/-- What is installed depends on the bundle and on whether the build asks for trees: nothing, one
archive for each payload, copied from the signed one, or the files of the tree. The mark of the plan
says whether the build asks for trees, and says no in every unbundled build. -/
theorem installed_by_form (h : b.plan c s tree = .ok plan) :
    plan.flattened = (s.flattenApex && !s.unbundledBuild) ∧
    (b.node.bundle.isInstallable = false → plan.installedFiles = []) ∧
    (b.node.bundle.isInstallable = true → s.flattenApex = false →
      ∃ selection, b.selection = .ok selection ∧
        plan.outputs.map Prod.fst = selection.payloads ∧
        (∀ o ∈ plan.outputs, ∃ act ∈ plan.actions,
          act = b.signing (b.certificate c.certificate s) s o.1 ∧ act.outputs = [o.2]) ∧
        List.Forall₂
          (fun o act => act.Copies o.2 (s.installRoot / "apex" / (b.name ++ o.1.ending)))
          plan.outputs (plan.actions.filter (·.install)) ∧
        plan.installedFiles = plan.outputs.map
          fun (o : Payload × Path) => s.installRoot / "apex" / (b.name ++ o.1.ending)) ∧
    (b.InstallsTree s →
      plan.installedFiles = (plan.flattenedFiles.map
        fun (f : PackagedFile) => s.installRoot / "apex" / b.name / f.pathInBundle) ∧
      plan.installedFiles ≠ []) := by
  obtain ⟨selection, hs⟩ := exists_selection h
  obtain ⟨houtputs, hmark, _⟩ := plan_eq_ok_outputs h hs
  refine ⟨hmark, installedFiles_of_not_installable h, fun hi hf => ?_, fun ht => ?_⟩
  · have hacts : plan.actions.filter (·.install) =
        selection.payloads.map (b.installArchive s) := by
      rw [filter_install_actions h hs, if_pos hi, if_neg (by simp [hf])]
    refine ⟨selection, hs, ?_, ?_, ?_, ?_⟩
    · rw [houtputs, List.map_map]
      exact List.map_id _
    · rw [houtputs]
      intro o ho
      obtain ⟨payload, hp, rfl⟩ := List.mem_map.1 ho
      exact ⟨_, signing_mem_actions h hs hp, rfl, rfl⟩
    · rw [houtputs, hacts, List.forall₂_map_left_iff, List.forall₂_map_right_iff]
      exact List.forall₂_same.2 fun payload _ => copies_installArchive payload
    · rw [Plan.installedFiles, hacts, houtputs, List.flatMap_map, List.map_map,
        List.map_eq_flatMap]
      rfl
  · rw [installedFiles_of_installsTree h ht, flattenedFiles_of_installsTree h ht]
    exact ⟨rfl, by simp⟩

theorem installed_by_form_aliasedTool :
    ∃ plan, Collection.ringBundle.plan aliasedTool (treeSettings false) layeredTree = .ok plan ∧
      plan.flattened = true ∧
      plan.installedFiles = (plan.flattenedFiles.map
        fun (f : PackagedFile) => ofString "install" / "apex" / "z" / f.pathInBundle) ∧
      plan.installedFiles ≠ [] := by
  obtain ⟨plan, hplan⟩ := exists_plan_ring aliasedTool false
  obtain ⟨hmark, _, _, htree⟩ := installed_by_form hplan
  exact ⟨plan, hplan, hmark, htree (installsTree_ring false)⟩

/-- In an unbundled build the tree of a bundle is installed, though its plan is not marked so. -/
theorem archive_missing_unbundled :
    ∃ plan, Collection.ringBundle.plan aliasedTool (treeSettings true) layeredTree = .ok plan ∧
      Collection.ringBundle.node.bundle.isInstallable = true ∧ plan.flattened = false ∧
      plan.installedFiles ≠ plan.outputs.map
        fun (o : Payload × Path) => ofString "install" / "apex" / ("z" ++ o.1.ending) := by
  obtain ⟨plan, hplan⟩ := exists_plan_ring aliasedTool true
  have hs : Collection.ringBundle.selection = .ok .image := by decide
  obtain ⟨houtputs, hmark, _⟩ := plan_eq_ok_outputs hplan hs
  refine ⟨plan, hplan, by decide, hmark, ?_⟩
  rw [installedFiles_of_installsTree hplan (installsTree_ring true), houtputs]
  decide +kernel

theorem staging_mem_actions (h : b.plan c s tree = .ok plan) (hs : b.selection = .ok selection)
    (hi : selection.hasImage = true) :
    Action.staging c.files (b.stagingDir s .image) ∈ plan.actions := by
  obtain ⟨contexts, hacts⟩ := exists_actions_eq h hs
  simp [hacts, hi, planImage]

theorem copyManifest_mem_actions (h : b.plan c s tree = .ok plan)
    (hs : b.selection = .ok selection) (hi : selection.hasImage = true)
    (hinst : b.node.bundle.isInstallable = true) : b.copyManifest s ∈ plan.actions := by
  obtain ⟨contexts, hacts⟩ := exists_actions_eq h hs
  have hmem : b.copyManifest s ∈ (b.planFlattened c.files s).1 :=
    mem_planFlattened_iff.2 ⟨hinst, .inl rfl⟩
  simp [hacts, hi, hmem]

theorem repeats_installFlattened (f : PackagedFile) (image : Path) :
    (b.installFlattened s f).Repeats ⟨f.builtFile, f.destination image⟩ image (b.treeRoot s) :=
  ⟨f.place, f.root_place, f.destination_eq image, rfl, rfl,
    congrArg (fun p => [p]) (f.destination_eq (b.treeRoot s))⟩

theorem place_flattenedManifest :
    (b.flattenedManifest s).place = ofString Bundle.defaultManifest := by
  have hdot : (ofString "." / ofString Bundle.defaultManifest : Path) =
      ofString Bundle.defaultManifest := by
    decide +kernel
  rw [PackagedFile.place, name_flattenedManifest]
  exact hdot

theorem copies_flattenedManifest : (b.installFlattened s (b.flattenedManifest s)).Copies
    (b.outDir s / Bundle.defaultManifest) (b.treeRoot s / Bundle.defaultManifest) where
  work := rfl
  inputs := rfl
  outputs := by
    have hdest : (b.flattenedManifest s).destination (b.treeRoot s) =
        b.treeRoot s / ofString Bundle.defaultManifest := by
      rw [PackagedFile.destination_eq, place_flattenedManifest]
    exact congrArg (fun p => [p]) hdest

theorem installedFiles_eq_places (h : b.plan c s tree = .ok plan) (ht : b.InstallsTree s) :
    plan.installedFiles =
      (c.files ++ [b.flattenedManifest s]).map fun f => b.treeRoot s / f.place := by
  rw [installedFiles_of_installsTree h ht]
  exact List.map_congr_left fun f _ =>
    (f.destination_eq_pathInBundle _).symm.trans (f.destination_eq _)

theorem mem_installedFiles_iff (h : b.plan c s tree = .ok plan) (ht : b.InstallsTree s)
    {place : Path} (hplace : place.root = .none) :
    b.treeRoot s / place ∈ plan.installedFiles ↔
      (∃ f ∈ c.files, f.place = place) ∨ place = ofString Bundle.defaultManifest := by
  rw [installedFiles_eq_places h ht, List.mem_map]
  simp only [div_eq_div_iff (PackagedFile.root_place _) hplace, List.mem_append,
    List.mem_singleton, or_and_right, exists_or, exists_eq_left, place_flattenedManifest]
  exact or_congr Iff.rfl eq_comm

/-- The tree of a bundle that is installed repeats the copies of the staged image one for one, and
then holds the manifest; there is nothing else in it, so links are left out. -/
theorem installs_staged_copies (h : b.plan c s tree = .ok plan) (ht : b.InstallsTree s) :
    ∃ stage ∈ plan.actions, ∃ copies links, stage.work = .stage copies links ∧
      stage.outputs = [b.stagingDir s .image] ∧
      ∃ installs last, plan.actions.filter (·.install) = installs ++ [last] ∧
        List.Forall₂ (fun copy act => act.Repeats copy (b.stagingDir s .image) (b.treeRoot s))
          copies installs ∧
        last.Copies (b.outDir s / "apex_manifest.json") (b.treeRoot s / "apex_manifest.json") ∧
        (∃ act ∈ plan.actions,
          act.Copies b.node.manifestPath (b.outDir s / "apex_manifest.json")) ∧
        ∀ place : Path, place.root = .none →
          (b.treeRoot s / place ∈ plan.installedFiles ↔
            (∃ copy ∈ copies, copy.dest = b.stagingDir s .image / place) ∨
              place = ofString "apex_manifest.json") := by
  have ⟨hinst, _, selection, hs, hi⟩ := ht
  refine ⟨_, staging_mem_actions h hs hi, _, _, rfl, rfl, c.files.map (b.installFlattened s),
    b.installFlattened s (b.flattenedManifest s), ?_, ?_, ?_, ?_, fun place hplace => ?_⟩
  · rw [filter_install_of_installsTree h ht, List.map_append, List.map_singleton]
  · rw [List.forall₂_map_left_iff, List.forall₂_map_right_iff]
    exact List.forall₂_same.2 fun f _ => repeats_installFlattened f _
  · exact copies_flattenedManifest
  · exact ⟨_, copyManifest_mem_actions h hs hi hinst, rfl, rfl, rfl⟩
  · rw [mem_installedFiles_iff h ht hplace]
    simp only [List.mem_map, exists_exists_and_eq_and, PackagedFile.destination_eq,
      div_eq_div_iff (PackagedFile.root_place _) hplace]
    rfl

theorem installs_staged_copies_aliasedTool :
    ∃ plan, Collection.ringBundle.plan aliasedTool (treeSettings false) layeredTree = .ok plan ∧
      Collection.ringBundle.InstallsTree (treeSettings false) ∧
      ∃ installs last, plan.actions.filter (·.install) = installs ++ [last] ∧
        last.Copies (ofString "out/z/android_common_z/apex_manifest.json")
          (ofString "install/apex/z/apex_manifest.json") := by
  obtain ⟨plan, hplan⟩ := exists_plan_ring aliasedTool false
  obtain ⟨_, _, _, _, _, _, installs, last, hacts, _, hlast, _⟩ :=
    installs_staged_copies hplan (installsTree_ring false)
  have hsource : (Collection.ringBundle.outDir (treeSettings false) / "apex_manifest.json" : Path) =
      ofString "out/z/android_common_z/apex_manifest.json" := by
    decide +kernel
  have hdest :
      (Collection.ringBundle.treeRoot (treeSettings false) / "apex_manifest.json" : Path) =
        ofString "install/apex/z/apex_manifest.json" := by
    decide +kernel
  rw [hsource, hdest] at hlast
  exact ⟨plan, hplan, installsTree_ring false, installs, last, hacts, hlast⟩

/-- The alias of a tool is staged but not installed. -/
theorem link_missing_aliasedTool :
    ∃ plan, Collection.ringBundle.plan aliasedTool (treeSettings false) layeredTree = .ok plan ∧
      Collection.ringBundle.InstallsTree (treeSettings false) ∧
      ∃ stage ∈ plan.actions, ∃ copies links, stage.work = .stage copies links ∧
        stage.outputs = [Collection.ringBundle.stagingDir (treeSettings false) .image] ∧
        ∃ l ∈ links,
          l.link = Collection.ringBundle.stagingDir (treeSettings false) .image / "bin/u" ∧
          Collection.ringBundle.treeRoot (treeSettings false) / "bin/u" ∉ plan.installedFiles := by
  obtain ⟨plan, hplan⟩ := exists_plan_ring aliasedTool false
  have ht := installsTree_ring false
  have hlinks : aliasedTool.files.flatMap
      (·.links (Collection.ringBundle.stagingDir (treeSettings false) .image)) =
        [⟨"t", Collection.ringBundle.stagingDir (treeSettings false) .image / "bin/u"⟩] := by
    decide +kernel
  have hs : Collection.ringBundle.selection = .ok .image := by decide
  refine ⟨plan, hplan, ht, _, staging_mem_actions hplan hs rfl, _, _, rfl, rfl, ⟨"t", _⟩, ?_, rfl,
    ?_⟩
  · rw [hlinks]
    exact List.mem_singleton_self _
  · rw [installedFiles_of_installsTree hplan ht]
    decide +kernel

end BundleModule

end BundleWright
