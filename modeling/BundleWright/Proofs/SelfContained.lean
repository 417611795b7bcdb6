import BundleWright.Proofs.Installation
import BundleWright.Proofs.Signing
/-!
The order of a plan. Main statement: every action finds its inputs among the files that are there
from the start and the outputs of the actions before it, and an archive is made from what the
actions of its payload before it have prepared.
-/
namespace BundleWright

def InTurn (P : List Action → Action → Prop) (acts : List Action) : Prop :=
  ∀ before act after, acts = before ++ act :: after → P before act

namespace InTurn

variable {P Q : List Action → Action → Prop} {acts acts' : List Action} {act : Action}

theorem nil : InTurn P [] := by
  intro before act after h
  simp at h

theorem cons_iff :
    InTurn P (act :: acts) ↔ P [] act ∧ InTurn (fun before => P (act :: before)) acts := by
  constructor
  · intro h
    exact ⟨h [] act acts rfl, fun before x after hx => h (act :: before) x after (by rw [hx]; rfl)⟩
  · rintro ⟨hact, hacts⟩ before x after hx
    cases before with
    | nil =>
      obtain ⟨rfl, rfl⟩ := List.cons.inj hx
      exact hact
    | cons y before =>
      obtain ⟨rfl, hrest⟩ := List.cons.inj hx
      exact hacts before x after hrest

theorem append_iff : InTurn P (acts ++ acts') ↔
    InTurn P acts ∧ InTurn (fun before => P (acts ++ before)) acts' := by
  induction acts generalizing P with
  | nil => simp [nil]
  | cons act acts ih => rw [List.cons_append, cons_iff, cons_iff, ih, and_assoc]; rfl

theorem mono (h : InTurn P acts) (hPQ : ∀ before, ∀ act ∈ acts, P before act → Q before act) :
    InTurn Q acts := by
  intro before act after hacts
  exact hPQ before act (by simp [hacts]) (h before act after hacts)

theorem of_forall (h : ∀ act ∈ acts, ∀ before, P before act) : InTurn P acts := by
  intro before act after hacts
  exact h act (by simp [hacts]) before

variable (hP : ∀ others before act, P before act → P (others ++ before) act)
include hP

/-- What more actions before an action cannot spoil holds of lists that are put together. -/
theorem append (h : InTurn P acts) (h' : InTurn P acts') : InTurn P (acts ++ acts') :=
  append_iff.2 ⟨h, h'.mono fun before act _ => hP acts before act⟩

theorem flatMap {α : Type} {l : List α} {f : α → List Action} (h : ∀ a ∈ l, InTurn P (f a)) :
    InTurn P (l.flatMap f) := by
  induction l with
  | nil => exact nil
  | cons a l ih =>
    rw [List.flatMap_cons]
    exact append hP (h a List.mem_cons_self) (ih fun x hx => h x (List.mem_cons_of_mem a hx))

end InTurn

def Action.Supplied (source : Path → Prop) (before : List Action) (act : Action) : Prop :=
  ∀ p ∈ act.inputs, source p ∨ ∃ maker ∈ before, p ∈ maker.outputs

/-- Whether an action makes the archive of a payload from a directory that one of the given actions
stages, and in the case of an image with the table of modes that another one writes. -/
def Action.MakesArchive (act : Action) (payload : Payload) (done : List Action) : Prop :=
  ∃ argv env dir archive, act.work = .command argv env ∧ act.outputs = [archive] ∧
    [dir.text, archive.text] <:+ argv ∧
    (∃ stage ∈ done, stage.outputs = [dir] ∧ ∃ copies links, stage.work = .stage copies links) ∧
    (payload = .image → ∃ table,
      ToolCommand.makerOption? "--canned_fs_config" argv = some table.text ∧
        ∃ write ∈ done, write.outputs = [table] ∧ ∃ content, write.work = .write content)

theorem Action.Supplied.after {source : Path → Prop} {before : List Action} {act : Action}
    (h : act.Supplied source before) (others : List Action) :
    act.Supplied source (others ++ before) := fun p hp =>
  (h p hp).imp_right fun ⟨maker, hm, ho⟩ => ⟨maker, List.mem_append_right _ hm, ho⟩

namespace ToolCommand

theorem makerOption?_accessModes {s : Settings} {p : ImageParts} {output : Path} :
    makerOption? "--canned_fs_config" (image s p output) = some p.accessModes.text := by
  simp [makerOption?, image, valueOf?]

theorem suffix_image (s : Settings) (p : ImageParts) (output : Path) :
    [p.dir.text, output.text] <:+ image s p output :=
  List.suffix_append _ _

theorem suffix_zip (s : Settings) (manifest dir output : Path) :
    [dir.text, output.text] <:+ zip s manifest dir output :=
  List.suffix_append [s.apexer, "--force", "--manifest", manifest.text, "--payload_type",
    Payload.zip.word] _

end ToolCommand

theorem getLast?_of_suffix {α : Type} {l : List α} {a b : α} (h : [a, b] <:+ l) :
    l.getLast? = some b := by
  obtain ⟨front, rfl⟩ := h
  rw [List.getLast?_append_of_ne_nil _ (List.cons_ne_nil _ _)]
  rfl

namespace BundleModule

/-- The files a plan starts from: those of the collection, its keys, the certificate, and what
belongs to the bundle itself. -/
inductive Source (b : BundleModule) (c : Collection) (s : Settings) (tree : FileTree) : Path → Prop
  | builtFile {f : PackagedFile} : f ∈ c.files → Source b c s tree f.builtFile
  | manifest : Source b c s tree b.node.manifestPath
  | key : Source b c s tree c.keyFile
  | publicKey {k : Path} : c.publicKeyFile = some k → Source b c s tree k
  | certificate : Source b c s tree (b.certificate c.certificate s).pem
  | certificateKey : Source b c s tree (b.certificate c.certificate s).key
  | fileContexts {p : Path} : b.fileContexts s tree = .ok p → Source b c s tree p

def payloadActions (b : BundleModule) (c : Collection) (s : Settings) (contexts : Path) :
    Payload → List Action
  | .image => b.planImage c (b.certificate c.certificate s) s contexts
  | .zip => b.planZip c (b.certificate c.certificate s) s

def Prepared (b : BundleModule) (c : Collection) (s : Settings) (contexts : Path)
    (before : List Action) (act : Action) : Prop :=
  ∀ payload : Payload, act.description = "apex (" ++ payload.word ++ ")" → ∃ others done rest,
    before = others ++ done ∧ b.payloadActions c s contexts payload = done ++ act :: rest ∧
      act.MakesArchive payload done

variable {b : BundleModule} {c : Collection} {s : Settings} {tree : FileTree} {plan : Plan}
  {selection : PayloadSelection} {contexts : Path} {act : Action} {payload : Payload}

theorem exists_parts (h : b.plan c s tree = .ok plan) (hs : b.selection = .ok selection) :
    ∃ contexts, (selection.hasImage = true → b.fileContexts s tree = .ok contexts) ∧
      plan.actions = selection.payloads.flatMap (b.payloadActions c s contexts) ++
        (if selection.hasImage then (b.planFlattened c.files s).1 else []) ∧
      plan.bundleModule = if selection.hasImage then some (b.repacked s) else none := by
  obtain ⟨selection', hs', h⟩ := exists_of_bind_eq_ok h
  obtain rfl : selection = selection' :=
    Except.ok.inj (hs.symm.trans (exists_of_mapError_eq_ok hs'))
  simp only at h
  split at h
  · next hi =>
    obtain ⟨contexts, hcontexts, h⟩ := exists_of_bind_eq_ok h
    cases h
    refine ⟨contexts, fun _ => hcontexts, ?_, by simp [hi]⟩
    cases selection <;> simp_all [PayloadSelection.hasZip, PayloadSelection.hasImage,
      PayloadSelection.payloads, payloadActions]
  · next hi =>
    cases h
    refine ⟨.here, fun hi' => absurd hi' hi, ?_, by simp [hi]⟩
    cases selection <;> simp_all [PayloadSelection.hasZip, PayloadSelection.hasImage,
      PayloadSelection.payloads, payloadActions]

theorem mem_signActions (certificate : Certificate) : ∀ act ∈ b.signActions certificate s payload,
    act = b.signing certificate s payload ∨ act = b.installArchive s payload := fun _ ha =>
  (mem_signActions_iff.1 ha).imp_right And.right

theorem supplied_signActions {before : List Action} {source : Path → Prop}
    {certificate : Certificate} (hpem : source certificate.pem) (hkey : source certificate.key)
    (hmade : ∃ maker ∈ before, b.unsigned s payload ∈ maker.outputs) :
    InTurn (fun done => Action.Supplied source (before ++ done))
      (b.signActions certificate s payload) := by
  have hsigning : (b.signing certificate s payload).Supplied source (before ++ []) := by
    obtain ⟨maker, hm, ho⟩ := hmade
    simp only [Action.Supplied, signing, List.forall_mem_cons]
    exact ⟨.inr ⟨maker, by simpa using hm, ho⟩, .inl hpem, .inl hkey, by simp⟩
  have hinstall : (b.installArchive s payload).Supplied source
      (before ++ [b.signing certificate s payload]) := by
    simp [Action.Supplied, installArchive, signing]
  refine InTurn.cons_iff.2 ⟨hsigning, ?_⟩
  split
  · exact InTurn.cons_iff.2 ⟨hinstall, .nil⟩
  · exact .nil

theorem supplied_payloadActions (hc : payload = .image → b.fileContexts s tree = .ok contexts) :
    InTurn (Action.Supplied (b.Source c s tree))
      (b.payloadActions c s contexts payload) := by
  have hstaging (dir : Path) : (Action.staging c.files dir).Supplied (b.Source c s tree) [] := by
    intro p hp
    obtain ⟨f, hf, rfl⟩ := List.mem_map.1 hp
    exact .inl (.builtFile hf)
  have hpayload {before : List Action} :
      ∀ p ∈ b.payloadInputs c, b.Source c s tree p ∨ ∃ maker ∈ before, p ∈ maker.outputs := by
    intro p hp
    rcases List.mem_append.1 hp with hp | hp
    · obtain ⟨f, hf, rfl⟩ := List.mem_map.1 hp
      exact .inl (.builtFile hf)
    · exact .inl (List.mem_singleton.1 hp ▸ .manifest)
  cases payload with
  | image =>
    have hcontexts : b.Source c s tree contexts := .fileContexts (hc rfl)
    refine InTurn.append_iff.2 ⟨InTurn.append_iff.2 ⟨InTurn.cons_iff.2 ⟨hstaging _, .nil⟩, ?_⟩,
      supplied_signActions .certificate .certificateKey (by simp [imageActions, makeAction])⟩
    refine InTurn.cons_iff.2 ⟨by simp [Action.Supplied], InTurn.cons_iff.2 ⟨fun p hp => ?_,
      InTurn.cons_iff.2 ⟨by simp [Action.Supplied, makeAction],
        InTurn.cons_iff.2 ⟨by simp [Action.Supplied], .nil⟩⟩⟩⟩
    rcases List.mem_append.1 hp with hp | hp
    · rcases List.mem_append.1 hp with hp | hp
      · exact hpayload p hp
      · simp only [List.mem_cons, List.not_mem_nil, or_false] at hp
        rcases hp with rfl | rfl | rfl
        · exact .inr (by simp)
        · exact .inl hcontexts
        · exact .inl .key
    · exact .inl (.publicKey (Option.mem_toList.1 hp))
  | zip =>
    refine InTurn.append_iff.2 ⟨InTurn.append_iff.2 ⟨InTurn.cons_iff.2 ⟨hstaging _, .nil⟩,
      InTurn.cons_iff.2 ⟨hpayload, .nil⟩⟩,
      supplied_signActions .certificate .certificateKey (by simp [zipActions, makeAction])⟩

theorem supplied_planFlattened :
    InTurn (Action.Supplied (b.Source c s tree))
      (b.planFlattened c.files s).1 := by
  have hcopy : (b.copyManifest s).Supplied (b.Source c s tree) [] := by
    intro p hp
    exact .inl (List.mem_singleton.1 hp ▸ .manifest)
  have hinstall : ∀ f ∈ c.files ++ [b.flattenedManifest s], ∀ before,
      (b.installFlattened s f).Supplied (b.Source c s tree) (b.copyManifest s :: before) := by
    intro f hf before p hp
    obtain rfl := List.mem_singleton.1 hp
    rcases List.mem_append.1 hf with hf | hf
    · exact .inl (.builtFile hf)
    · exact .inr ⟨_, List.mem_cons_self, by simp [List.mem_singleton.1 hf, copyManifest]⟩
  unfold planFlattened
  split
  · refine InTurn.cons_iff.2 ⟨hcopy, ?_⟩
    split
    · refine .of_forall fun act ha => ?_
      obtain ⟨f, hf, rfl⟩ := List.mem_map.1 ha
      exact hinstall f hf
    · exact .nil
  · exact .nil

theorem ne_makerWord {p : String} (x : String) (h : p ∈ ["stage ", "install ", "copy "]) :
    p ++ x ≠ "apex (" ++ payload.word ++ ")" := by
  refine append_ne_of_not_begins ?_ x
  revert p
  cases payload <;> decide

theorem ne_makerWord_of_mem {t : String} (h : t ∈ ["generate fs config", "apex proto convert",
    "apex bundle module", "signapk"]) : t ≠ "apex (" ++ payload.word ++ ")" := by
  revert t
  cases payload <;> decide

theorem ne_makerWord_of_signActions {certificate : Certificate} {payload' : Payload} :
    ∀ act ∈ b.signActions certificate s payload,
      act.description ≠ "apex (" ++ payload'.word ++ ")" := by
  intro act ha
  rcases mem_signActions certificate act ha with rfl | rfl
  · exact ne_makerWord_of_mem (by simp [signing])
  · exact ne_makerWord _ (by simp)

theorem ne_makerWord_of_planFlattened {files : List PackagedFile} :
    ∀ act ∈ (b.planFlattened files s).1, act.description ≠ "apex (" ++ payload.word ++ ")" := by
  intro act ha
  rcases (mem_planFlattened_iff.1 ha).2 with rfl | ⟨_, f, _, rfl⟩
  · exact ne_makerWord _ (by simp)
  · exact ne_makerWord _ (by simp)

theorem makesArchive_image {done : List Action}
    (hwork : act.work = .command (ToolCommand.image s (b.imageParts c s contexts)
      (b.unsigned s .image)) (ToolCommand.makerVariables s))
    (hmade : act.outputs = [b.unsigned s .image])
    (hstage : Action.staging c.files (b.stagingDir s .image) ∈ done)
    (hwrite : ∃ write ∈ done, write.outputs = [b.accessTable s] ∧
      ∃ content, write.work = .write content) : act.MakesArchive .image done :=
  ⟨_, _, b.stagingDir s .image, _, hwork, hmade,
    ToolCommand.suffix_image s (b.imageParts c s contexts) _, ⟨_, hstage, rfl, _, _, rfl⟩,
    fun _ => ⟨b.accessTable s, ToolCommand.makerOption?_accessModes, hwrite⟩⟩

theorem makesArchive_payloadActions :
    InTurn (fun before act => ∀ payload' : Payload,
        act.description = "apex (" ++ payload'.word ++ ")" →
          payload' = payload ∧ act.MakesArchive payload before)
      (b.payloadActions c s contexts payload) := by
  have hstaging (dir : Path) (payload' : Payload) :
      (Action.staging c.files dir).description ≠ "apex (" ++ payload'.word ++ ")" :=
    ne_makerWord _ (by simp)
  have hword {payload payload' : Payload}
      (h : "apex (" ++ payload.word ++ ")" = "apex (" ++ payload'.word ++ ")") :
      payload' = payload := by
    revert h
    cases payload <;> cases payload' <;> decide
  cases payload with
  | image =>
    refine InTurn.append_iff.2 ⟨InTurn.cons_iff.2 ⟨fun _ h => absurd h (hstaging _ _),
      InTurn.cons_iff.2 ⟨?_, InTurn.cons_iff.2 ⟨?_, InTurn.cons_iff.2 ⟨?_, InTurn.cons_iff.2 ⟨?_,
        .nil⟩⟩⟩⟩⟩, .of_forall fun act ha _ _ h => absurd h (ne_makerWord_of_signActions act ha)⟩
    · exact fun _ h => absurd h (ne_makerWord_of_mem (by simp))
    · intro payload' h
      exact ⟨hword h, makesArchive_image rfl rfl List.mem_cons_self
        ⟨_, List.mem_cons_of_mem _ List.mem_cons_self, rfl, _, rfl⟩⟩
    · exact fun _ h => absurd h (ne_makerWord_of_mem (by simp))
    · exact fun _ h => absurd h (ne_makerWord_of_mem (by simp))
  | zip =>
    refine InTurn.append_iff.2 ⟨InTurn.cons_iff.2 ⟨fun _ h => absurd h (hstaging _ _),
      InTurn.cons_iff.2 ⟨fun payload' h => ⟨hword h, ?_⟩, .nil⟩⟩,
      .of_forall fun act ha _ _ h => absurd h (ne_makerWord_of_signActions act ha)⟩
    refine ⟨_, _, b.stagingDir s .zip, _, rfl, rfl, ToolCommand.suffix_zip _ _ _ _, ?_, nofun⟩
    exact ⟨_, List.mem_cons_self, rfl, _, _, rfl⟩

/-- Every tool but the one that repacks is told last where its output goes. -/
theorem Planned.getLast?_argv (h : Planned b c s contexts act) {argv : List String}
    {env : Environment} (hw : act.work = .command argv env)
    (hd : act.description ≠ "apex bundle module") :
    ∃ output, act.outputs = [output] ∧ argv.getLast? = some output.text := by
  cases h with
  | staging payload => cases hw
  | image ha =>
    simp only [imageActions, List.mem_cons, List.not_mem_nil, or_false] at ha
    rcases ha with rfl | rfl | rfl | rfl
    · cases hw
    · cases hw
      exact ⟨_, rfl, getLast?_of_suffix (ToolCommand.suffix_image s (b.imageParts c s contexts) _)⟩
    · cases hw
      exact ⟨_, rfl, rfl⟩
    · exact absurd rfl hd
  | zip ha =>
    obtain rfl := List.mem_singleton.1 ha
    cases hw
    exact ⟨_, rfl, rfl⟩
  | signing payload ha =>
    rcases mem_signActions _ _ ha with rfl | rfl
    · cases hw
      exact ⟨_, rfl, rfl⟩
    · cases hw
  | flattened _ _ ha =>
    rcases (mem_planFlattened_iff.1 ha).2 with rfl | ⟨_, f, _, rfl⟩ <;> cases hw

theorem maker_mem_payloadActions (payload : Payload) :
    ∃ act ∈ b.payloadActions c s contexts payload,
      act.description = "apex (" ++ payload.word ++ ")" := by
  cases payload
  · exact ⟨_, List.mem_append_left _ (List.mem_append_right _
      (List.mem_cons_of_mem _ List.mem_cons_self)), rfl⟩
  · exact ⟨_, List.mem_append_left _ (List.mem_append_right _ List.mem_cons_self), rfl⟩

theorem repacker_mem_payloadActions :
    ∃ act ∈ b.payloadActions c s contexts .image, act.outputs = [b.repacked s] :=
  ⟨_, List.mem_append_left _ (List.mem_append_right _ (List.mem_cons_of_mem _
    (List.mem_cons_of_mem _ (List.mem_cons_of_mem _ List.mem_cons_self)))), rfl⟩

theorem image_mem_payloads_iff : Payload.image ∈ selection.payloads ↔ selection.hasImage = true := by
  cases selection <;> decide

theorem supplied_actions (h : b.plan c s tree = .ok plan) :
    InTurn (Action.Supplied (b.Source c s tree)) plan.actions := by
  obtain ⟨selection, hs⟩ := exists_selection h
  obtain ⟨contexts, hcontexts, hacts, _⟩ := exists_parts h hs
  have hmore (others before : List Action) (act : Action)
      (h : act.Supplied (b.Source c s tree) before) :
      act.Supplied (b.Source c s tree) (others ++ before) := h.after others
  rw [hacts]
  refine .append hmore (.flatMap hmore fun payload hp => supplied_payloadActions ?_) ?_
  · rintro rfl
    exact hcontexts (image_mem_payloads_iff.1 hp)
  · split
    · exact supplied_planFlattened
    · exact .nil

theorem prepared_actions (h : b.plan c s tree = .ok plan) :
    ∃ contexts, (plan.bundleModule ≠ none → b.fileContexts s tree = .ok contexts) ∧
      InTurn (b.Prepared c s contexts) plan.actions := by
  obtain ⟨selection, hs⟩ := exists_selection h
  obtain ⟨contexts, hcontexts, hacts, hmodule⟩ := exists_parts h hs
  have hmore (others before : List Action) (act : Action) (h : b.Prepared c s contexts before act) :
      b.Prepared c s contexts (others ++ before) act := by
    intro payload hd
    obtain ⟨more, done, rest, rfl, hrest⟩ := h payload hd
    exact ⟨others ++ more, done, rest, (List.append_assoc _ _ _).symm, hrest⟩
  refine ⟨contexts, fun hm => hcontexts ?_, ?_⟩
  · by_contra hi
    exact hm (by rw [hmodule, if_neg hi])
  · rw [hacts]
    refine .append hmore (.flatMap hmore fun payload hp before act after hpos payload' hd => ?_) ?_
    · obtain ⟨rfl, hmakes⟩ := makesArchive_payloadActions before act after hpos payload' hd
      exact ⟨[], before, after, rfl, hpos, hmakes⟩
    · split
      · exact .of_forall fun act ha _ _ hd => absurd hd (ne_makerWord_of_planFlattened act ha)
      · exact .nil

theorem outputs_made (h : b.plan c s tree = .ok plan) :
    (∀ o ∈ plan.outputs,
      (∃ act ∈ plan.actions, act.description = "apex (" ++ o.1.word ++ ")") ∧
        ∃ act ∈ plan.actions, o.2 ∈ act.outputs) ∧
    ∀ p, plan.bundleModule = some p → ∃ act ∈ plan.actions, p ∈ act.outputs := by
  obtain ⟨selection, hs⟩ := exists_selection h
  obtain ⟨contexts, _, hacts, hmodule⟩ := exists_parts h hs
  obtain ⟨houtputs, _⟩ := plan_eq_ok_outputs h hs
  have hpart {payload : Payload} (hp : payload ∈ selection.payloads) {act : Action}
      (ha : act ∈ b.payloadActions c s contexts payload) : act ∈ plan.actions := by
    rw [hacts]
    exact List.mem_append_left _ (List.mem_flatMap.2 ⟨payload, hp, ha⟩)
  refine ⟨fun o ho => ?_, fun p hp => ?_⟩
  · rw [houtputs] at ho
    obtain ⟨payload, hp, rfl⟩ := List.mem_map.1 ho
    obtain ⟨act, ha, hd⟩ := maker_mem_payloadActions (b := b) (c := c) (s := s) payload
    exact ⟨⟨act, hpart hp ha, hd⟩, _, signing_mem_actions h hs hp, List.mem_singleton_self _⟩
  · rw [hmodule] at hp
    split at hp
    · next hi =>
      cases hp
      obtain ⟨act, ha, hout⟩ := repacker_mem_payloadActions (b := b) (c := c) (s := s)
      exact ⟨act, hpart (image_mem_payloads_iff.2 hi) ha, by simp [hout]⟩
    · cases hp

/-- A plan can be carried out from its first action to its last. Every action finds its inputs among
the sources and the outputs of the actions before it; an archive is made of the directory staged,
and with the table of modes written, by actions of the same payload before it; tools are told last
where their output goes, the one that repacks apart; and what the plan gives out is made by its
actions. -/
theorem self_contained (h : b.plan c s tree = .ok plan) :
    InTurn (Action.Supplied (b.Source c s tree)) plan.actions ∧
    (∃ contexts, (plan.bundleModule ≠ none → b.fileContexts s tree = .ok contexts) ∧
      InTurn (b.Prepared c s contexts) plan.actions) ∧
    (∀ act ∈ plan.actions, ∀ argv env, act.work = .command argv env →
      act.description ≠ "apex bundle module" →
        ∃ output, act.outputs = [output] ∧ argv.getLast? = some output.text) ∧
    (∀ o ∈ plan.outputs,
      (∃ act ∈ plan.actions, act.description = "apex (" ++ o.1.word ++ ")") ∧
        ∃ act ∈ plan.actions, o.2 ∈ act.outputs) ∧
    ∀ p, plan.bundleModule = some p → ∃ act ∈ plan.actions, p ∈ act.outputs := by
  refine ⟨supplied_actions h, prepared_actions h, fun act ha argv env hw hd => ?_, outputs_made h⟩
  obtain ⟨contexts, hplanned⟩ := planned_of_mem_actions h
  exact (hplanned act ha).getLast?_argv hw hd

def twofoldBundle : BundleModule where
  name := "z"
  target := TargetOs.android.common
  node := ⟨{ name := "z", properties := { payloadType := some "both" } }, [], .here⟩

theorem self_contained_twofoldBundle :
    ∃ plan, twofoldBundle.plan aliasedTool (treeSettings false) layeredTree = .ok plan ∧
      plan.outputs.map Prod.fst = [.zip, .image] ∧
      InTurn (Action.Supplied (twofoldBundle.Source aliasedTool (treeSettings false) layeredTree))
        plan.actions ∧
      ∀ o ∈ plan.outputs, ∃ act ∈ plan.actions, o.2 ∈ act.outputs := by
  have hcontexts : (twofoldBundle.fileContexts (treeSettings false)
      layeredTree).toOption.isSome = true := by decide +kernel
  have hs : twofoldBundle.selection = .ok .both := by decide
  have hexists : ∃ contexts,
      twofoldBundle.fileContexts (treeSettings false) layeredTree = .ok contexts := by
    cases hf : twofoldBundle.fileContexts (treeSettings false) layeredTree with
    | error e => simp [hf, Except.toOption] at hcontexts
    | ok contexts => exact ⟨contexts, rfl⟩
  obtain ⟨plan, hplan⟩ := exists_plan hs (fun _ => hexists) aliasedTool
  obtain ⟨hsupplied, _, _, houtputs, _⟩ := self_contained hplan
  refine ⟨plan, hplan, ?_, hsupplied, fun o ho => (houtputs o ho).2⟩
  rw [(plan_eq_ok_outputs hplan hs).1]
  rfl

end BundleModule

end BundleWright
