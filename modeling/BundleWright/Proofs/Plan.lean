import BundleWright.Proofs.Assembly
/-!
What a plan consists of. Main statements: an action of a plan stages the collection, makes or signs
an archive of it, or belongs to the directory form; what is staged is the collection every time, and
what is installed are archives or the files of the tree.
-/
namespace BundleWright

theorem append_ne_of_not_begins {p t : String} (h : ¬p.toList <+: t.toList) (x : String) :
    p ++ x ≠ t := by
  rintro rfl
  exact h ⟨x.toList, by rw [String.toList_append]⟩

namespace BundleModule

def imageParts (b : BundleModule) (c : Collection) (s : Settings) (contexts : Path) :
    ToolCommand.ImageParts where
  manifest := b.node.manifestPath
  fileContexts := contexts
  accessModes := b.accessTable s
  key := c.keyFile
  publicKey := c.publicKeyFile
  packageName := PackageName.override? b.name s.packageNameOverrides
  dir := b.stagingDir s .image

def signing (b : BundleModule) (certificate : Certificate) (s : Settings) (payload : Payload) :
    Action where
  description := "signapk"
  outputs := [b.signed s payload]
  inputs := [b.unsigned s payload, certificate.pem, certificate.key]
  work := .command (ToolCommand.sign s certificate (b.unsigned s payload) (b.signed s payload)) []

def installArchive (b : BundleModule) (s : Settings) (payload : Payload) : Action where
  description := "install " ++ (b.signed s payload).name
  outputs := [s.installDir / (b.name ++ payload.ending)]
  inputs := [b.signed s payload]
  work := .copy
  install := true

def copyManifest (b : BundleModule) (s : Settings) : Action where
  description := "copy " ++ b.node.bundle.manifestName
  outputs := [(b.flattenedManifest s).builtFile]
  inputs := [b.node.manifestPath]
  work := .copy

def InstallsTree (b : BundleModule) (s : Settings) : Prop :=
  b.node.bundle.isInstallable = true ∧ s.flattenApex = true ∧
    ∃ selection, b.selection = .ok selection ∧ selection.hasImage = true

inductive Planned (b : BundleModule) (c : Collection) (s : Settings) (contexts : Path) :
    Action → Prop
  | staging (payload : Payload) :
      Planned b c s contexts (Action.staging c.files (b.stagingDir s payload))
  | image {act : Action} : act ∈ b.imageActions c s contexts → Planned b c s contexts act
  | zip {act : Action} : act ∈ b.zipActions c s → Planned b c s contexts act
  | signing {act : Action} (payload : Payload) :
      act ∈ b.signActions (b.certificate c.certificate s) s payload → Planned b c s contexts act
  | flattened {act : Action} {selection : PayloadSelection} : b.selection = .ok selection →
      selection.hasImage = true → act ∈ (b.planFlattened c.files s).1 → Planned b c s contexts act

variable {b : BundleModule} {c : Collection} {s : Settings} {tree : FileTree} {plan : Plan}
  {act : Action} {contexts : Path} {copies : List FileCopy} {links : List FileLink}

theorem mem_signActions_iff {certificate : Certificate} {payload : Payload} :
    act ∈ b.signActions certificate s payload ↔ act = b.signing certificate s payload ∨
      (b.node.bundle.isInstallable = true ∧ s.flattenApex = false) ∧
        act = b.installArchive s payload := by
  rw [signActions, List.mem_append, List.mem_singleton]
  refine or_congr Iff.rfl ?_
  split <;> simp_all [installArchive]

theorem mem_planFlattened_iff {files : List PackagedFile} :
    act ∈ (b.planFlattened files s).1 ↔ b.node.bundle.isInstallable = true ∧
      (act = b.copyManifest s ∨ s.flattenApex = true ∧
        ∃ f ∈ files ++ [b.flattenedManifest s], act = b.installFlattened s f) := by
  rw [planFlattened]
  split
  · next hi =>
    simp only [hi, true_and]
    split
    · next hf =>
      simp only [List.mem_cons, List.mem_map, hf, true_and]
      exact or_congr Iff.rfl (exists_congr fun f => and_congr_right fun _ => eq_comm)
    · next hf => simp [hf, copyManifest]
  · next hi => simp [hi]

theorem exists_actions_eq (h : b.plan c s tree = .ok plan) {selection : PayloadSelection}
    (hs : b.selection = .ok selection) :
    ∃ contexts, plan.actions =
      (if selection.hasZip then b.planZip c (b.certificate c.certificate s) s else []) ++
        if selection.hasImage then
          b.planImage c (b.certificate c.certificate s) s contexts ++ (b.planFlattened c.files s).1
        else [] := by
  obtain ⟨_, _, selection', contexts, hs', hacts⟩ := plan_eq_ok h
  obtain rfl : selection = selection' := Except.ok.inj (hs.symm.trans hs')
  exact ⟨contexts, hacts⟩

theorem planned_of_mem_actions (h : b.plan c s tree = .ok plan) :
    ∃ contexts, ∀ act ∈ plan.actions, Planned b c s contexts act := by
  obtain ⟨_, _, selection, contexts, hs, hacts⟩ := plan_eq_ok h
  refine ⟨contexts, fun act ha => ?_⟩
  rw [hacts, List.mem_append] at ha
  rcases ha with ha | ha
  · split at ha
    · simp only [planZip, List.mem_append, List.mem_singleton] at ha
      rcases ha with (rfl | ha) | ha
      · exact .staging .zip
      · exact .zip ha
      · exact .signing .zip ha
    · simp at ha
  · split at ha
    · next hi =>
      simp only [planImage, List.mem_append, List.mem_singleton] at ha
      rcases ha with ((rfl | ha) | ha) | ha
      · exact .staging .image
      · exact .image ha
      · exact .signing .image ha
      · exact .flattened hs hi ha
    · simp at ha

/-- A plan stages its collection for some payload, and signs what it makes of it. -/
theorem exists_payload (h : b.plan c s tree = .ok plan) :
    ∃ payload, Action.staging c.files (b.stagingDir s payload) ∈ plan.actions ∧
      ∀ act ∈ b.signActions (b.certificate c.certificate s) s payload, act ∈ plan.actions := by
  obtain ⟨_, _, selection, contexts, _, hacts⟩ := plan_eq_ok h
  rw [hacts]
  by_cases hz : selection.hasZip = true
  · exact ⟨.zip, by simp +contextual [hz, planZip]⟩
  · have hi : selection.hasImage = true := by
      cases selection <;> simp_all [PayloadSelection.hasZip, PayloadSelection.hasImage]
    exact ⟨.image, by simp +contextual [hz, hi, planImage]⟩

theorem exists_maker (h : b.plan c s tree = .ok plan) {selection : PayloadSelection}
    (hs : b.selection = .ok selection) (hi : selection.hasImage = true) :
    ∃ act ∈ plan.actions, act.description = "apex (image)" := by
  obtain ⟨contexts, hacts⟩ := exists_actions_eq h hs
  obtain ⟨act, hm, hd⟩ : ∃ act ∈ b.imageActions c s contexts, act.description = "apex (image)" :=
    ⟨_, List.mem_cons_of_mem _ List.mem_cons_self, rfl⟩
  exact ⟨act, by simp [hacts, hi, planImage, hm], hd⟩

theorem Planned.eq_staging (h : Planned b c s contexts act) (hw : act.work = .stage copies links) :
    ∃ payload, act = Action.staging c.files (b.stagingDir s payload) := by
  cases h with
  | staging payload => exact ⟨payload, rfl⟩
  | image ha =>
    simp only [imageActions, makeAction, List.mem_cons, List.not_mem_nil, or_false] at ha
    grind
  | zip ha =>
    simp only [zipActions, makeAction, List.mem_singleton] at ha
    grind
  | signing payload ha =>
    rcases mem_signActions_iff.1 ha with rfl | ⟨_, rfl⟩ <;> cases hw
  | flattened _ _ ha =>
    rcases (mem_planFlattened_iff.1 ha).2 with rfl | ⟨_, f, _, rfl⟩ <;> cases hw

/-- The actions that make the archive of the image and that sign are told by their descriptions. -/
theorem Planned.maker_or_signing (h : Planned b c s contexts act) :
    (act.description = "apex (image)" ∧ act.work = .command
      (ToolCommand.image s (b.imageParts c s contexts) (b.unsigned s .image))
      (ToolCommand.makerVariables s)) ∨
    (act.description = "signapk" ∧
      ∃ payload, act = b.signing (b.certificate c.certificate s) s payload) ∨
    (act.description ≠ "apex (image)" ∧ act.description ≠ "signapk") := by
  have hother (p x : String) (hi : ¬p.toList <+: "apex (image)".toList)
      (hs : ¬p.toList <+: "signapk".toList) : p ++ x ≠ "apex (image)" ∧ p ++ x ≠ "signapk" :=
    ⟨append_ne_of_not_begins hi x, append_ne_of_not_begins hs x⟩
  cases h with
  | staging payload => exact .inr (.inr (hother "stage " _ (by decide) (by decide)))
  | image ha =>
    simp only [imageActions, List.mem_cons, List.not_mem_nil, or_false] at ha
    rcases ha with rfl | rfl | rfl | rfl
    · exact .inr (.inr (by simp))
    · exact .inl ⟨rfl, rfl⟩
    · exact .inr (.inr (by simp))
    · exact .inr (.inr (by simp))
  | zip ha =>
    obtain rfl := List.mem_singleton.1 ha
    exact .inr (.inr (by simp [makeAction, Payload.word]))
  | signing payload ha =>
    rcases mem_signActions_iff.1 ha with rfl | ⟨_, rfl⟩
    · exact .inr (.inl ⟨rfl, payload, rfl⟩)
    · exact .inr (.inr (hother "install " _ (by decide) (by decide)))
  | flattened _ _ ha =>
    rcases (mem_planFlattened_iff.1 ha).2 with rfl | ⟨_, f, _, rfl⟩
    · exact .inr (.inr (hother "copy " _ (by decide) (by decide)))
    · exact .inr (.inr (hother "install " _ (by decide) (by decide)))

theorem Planned.of_install (h : Planned b c s contexts act) (hi : act.install = true) :
    (∃ payload, act = b.installArchive s payload) ∨ b.InstallsTree s ∧
      ∃ f ∈ c.files ++ [b.flattenedManifest s], act = b.installFlattened s f := by
  cases h with
  | staging payload => cases hi
  | image ha =>
    simp only [imageActions, makeAction, List.mem_cons, List.not_mem_nil, or_false] at ha
    grind
  | zip ha =>
    simp only [zipActions, makeAction, List.mem_singleton] at ha
    grind
  | signing payload ha =>
    rcases mem_signActions_iff.1 ha with rfl | ⟨_, rfl⟩
    · cases hi
    · exact .inl ⟨payload, rfl⟩
  | flattened hs himage ha =>
    obtain ⟨hinst, rfl | ⟨hflat, f, hf, rfl⟩⟩ := mem_planFlattened_iff.1 ha
    · cases hi
    · exact .inr ⟨⟨hinst, hflat, _, hs, himage⟩, f, hf, rfl⟩

theorem installFlattened_mem_actions (h : b.plan c s tree = .ok plan) (hi : b.InstallsTree s)
    {f : PackagedFile} (hf : f ∈ c.files ++ [b.flattenedManifest s]) :
    b.installFlattened s f ∈ plan.actions := by
  obtain ⟨hinst, hflat, selection, hs, himage⟩ := hi
  obtain ⟨contexts, hacts⟩ := exists_actions_eq h hs
  have hmem := mem_planFlattened_iff.2 ⟨hinst, .inr ⟨hflat, f, hf, rfl⟩⟩
  simp [hacts, himage, hmem]

theorem eq_staging_of_mem_actions (h : b.plan c s tree = .ok plan) (ha : act ∈ plan.actions)
    (hw : act.work = .stage copies links) :
    ∃ payload, act = Action.staging c.files (b.stagingDir s payload) := by
  obtain ⟨contexts, hall⟩ := planned_of_mem_actions h
  exact (hall act ha).eq_staging hw

end BundleModule

end BundleWright
