import BundleWright.Proofs.Outputs
/-!
What different bundles make. Main statement: no path that one bundle makes coincides with, lies
above or lies below one that another bundle makes, whatever is planned and installed for the two.
-/
namespace BundleWright

open BundleWright.Path

namespace Path

variable {a a' p q : Path} {x y : String}

theorem Apart.symm (h : Apart p q) : Apart q p := ⟨h.1.symm, h.2.2, h.2.1⟩

theorem Above.mem_lineage (h : Above p q) : p ∈ q.lineage := mem_lineage_iff.2 ⟨h.1, h.2.1⟩

theorem Apart.of_mem_lineage (h : Apart a a') (hp : a ∈ p.lineage) (hq : a' ∈ q.lineage) :
    Apart p q := by
  refine ⟨?_, fun hpq => ?_, fun hqp => ?_⟩
  · rintro rfl
    exact not_mem_lineage_of_apart h hp hq
  · exact not_mem_lineage_of_apart h (mem_lineage_trans hp hpq.mem_lineage) hq
  · exact not_mem_lineage_of_apart h hp (mem_lineage_trans hq hqp.mem_lineage)

theorem Inside.mem_lineage (h : Inside a p) : a ∈ p.lineage := by
  obtain ⟨l, _, _, hroot, hparts⟩ := h
  rw [mem_lineage_iff, hroot, hparts]
  exact ⟨rfl, List.prefix_append _ _⟩

theorem ne_of_isPlainName (h : isPlainName x = true) : x ≠ "" ∧ x ≠ ".." := by
  constructor
  · rintro rfl
    simp [isPlainName] at h
  · rintro rfl
    simp [isPlainName] at h

theorem mem_lineage_name (hx : IsComponent x) : p ∈ (p / x : Path).lineage :=
  mem_lineage_div (mem_lineage_self _) (by rw [ofString_component hx])

theorem apart_names {dir : Path} (hx : IsComponent x) (hy : IsComponent y) (hne : x ≠ y) :
    Apart (dir / x) (dir / y) := by
  have hxp : (ofString x).root = .none ∧ (ofString x).parts = [x] := by
    rw [ofString_component hx]
    exact ⟨rfl, rfl⟩
  have hyp : (ofString y).root = .none ∧ (ofString y).parts = [y] := by
    rw [ofString_component hy]
    exact ⟨rfl, rfl⟩
  refine (apart_div_iff hxp.1 hyp.1).2 ?_
  rw [hxp.2, hyp.2]
  exact ⟨fun h => hne (by simpa using h), fun h => hne.symm (by simpa using h)⟩

end Path

/-- No ending of an archive ends another one, so an archive tells the bundle. -/
theorem Payload.eq_of_append_eq {x y : String} {p q : Payload}
    (h : x ++ p.ending = y ++ q.ending) : x = y := by
  have hsuffix (p q : Payload) (hpq : p.ending.toList <:+ q.ending.toList) : p = q := by
    cases p <;> cases q <;> first | rfl | exact absurd hpq (by decide)
  have hchars : x.toList ++ p.ending.toList = y.toList ++ q.ending.toList := by
    simpa using congrArg String.toList h
  have hpq : p = q := by
    rcases List.suffix_or_suffix_of_suffix (List.suffix_append x.toList p.ending.toList)
      (hchars ▸ List.suffix_append y.toList q.ending.toList) with hs | hs
    · exact hsuffix p q hs
    · exact (hsuffix q p hs).symm
  subst hpq
  exact (String.append_left_inj _).1 h

namespace BundleModule

variable {b b' : BundleModule} {c : Collection} {s : Settings} {tree : FileTree} {plan : Plan}
  {p q : Path}

inductive OwnsInstalled (b : BundleModule) (s : Settings) : Path → Prop
  | tree {p : Path} : s.flattenApex = true → b.treeRoot s ∈ p.lineage → OwnsInstalled b s p
  | archive (payload : Payload) : s.flattenApex = false →
      OwnsInstalled b s (s.installDir / (b.name ++ payload.ending))

/-- The paths that are a bundle's own: what is below its directory, and what is installed for it. -/
inductive Owns (b : BundleModule) (s : Settings) : Path → Prop
  | built {p : Path} : (s.outDir / b.name : Path).Inside p → Owns b s p
  | installed {p : Path} : b.OwnsInstalled s p → Owns b s p

theorem isPlainName_outDir {os : TargetOs} (hb : '/' ∉ b.name.toList) (ht : b.target = os.common) :
    isPlainName (b.target.variantName ++ "_" ++ b.name) = true := by
  have hv : ∀ os : TargetOs, 3 ≤ os.common.variantName.toList.length ∧
      '/' ∉ os.common.variantName.toList := by
    rintro (_ | _ | _) <;> decide +kernel
  obtain ⟨hlen, hslash⟩ := hv os
  rw [← ht] at hlen hslash
  refine isPlainName_of_long ?_ ?_
  · simp [hslash, hb]
  · simp only [String.toList_append, List.length_append]
    omega

theorem inside_output {os : TargetOs} (hb : isPlainName b.name = true) (ht : b.target = os.common)
    {x : OutputName} (hx : x ∈ OutputName.all) :
    (s.outDir / b.name : Path).Inside (b.output s x) := by
  have hslash := (isComponent_of_isPlainName hb).not_mem
  have hdir := isPlainName_outDir hslash ht
  have htext := OutputName.isPlainName_text hslash hx
  refine ⟨[b.target.variantName ++ "_" ++ b.name, x.text b.name], by simp, ?_, ?_, ?_⟩
  · simp [(ne_of_isPlainName hdir).2.symm, (ne_of_isPlainName htext).2.symm]
  · rw [output, root_div_component (isComponent_of_isPlainName htext), outDir,
      root_div_component (isComponent_of_isPlainName hdir)]
  · rw [parts_output hslash hx, outDir, parts_div_component (isComponent_of_isPlainName hdir),
      List.append_assoc]
    rfl

theorem OwnsInstalled.installRoot_mem (hb : isPlainName b.name = true)
    (h : b.OwnsInstalled s p) : s.installRoot ∈ p.lineage := by
  have hname := isComponent_of_isPlainName hb
  have hroot : s.installRoot ∈ s.installDir.lineage := mem_lineage_name (by decide)
  cases h with
  | tree _ hp => exact mem_lineage_trans hroot (mem_lineage_trans (mem_lineage_name hname) hp)
  | archive payload _ =>
    have harchive := isComponent_archive hname.not_mem payload
    exact mem_lineage_trans hroot (mem_lineage_name harchive)

theorem OwnsInstalled.apart (hb : isPlainName b.name = true) (hb' : isPlainName b'.name = true)
    (hne : b.name ≠ b'.name) (hp : b.OwnsInstalled s p) (hq : b'.OwnsInstalled s q) :
    Apart p q := by
  have hname := isComponent_of_isPlainName hb
  have hname' := isComponent_of_isPlainName hb'
  cases hp with
  | tree hf hp =>
    cases hq with
    | tree _ hq => exact (apart_names hname hname' hne).of_mem_lineage hp hq
    | archive _ hf' => exact absurd (hf.symm.trans hf') (by decide)
  | archive payload hf =>
    cases hq with
    | tree hf' _ => exact absurd (hf.symm.trans hf') (by decide)
    | archive payload' _ =>
      exact apart_names (isComponent_archive hname.not_mem payload)
        (isComponent_archive hname'.not_mem payload') fun h => hne (Payload.eq_of_append_eq h)

theorem Owns.apart (hb : isPlainName b.name = true) (hb' : isPlainName b'.name = true)
    (hne : b.name ≠ b'.name) (ha : Apart s.outDir s.installRoot) (hp : b.Owns s p)
    (hq : b'.Owns s q) : Apart p q := by
  have hname := isComponent_of_isPlainName hb
  have hname' := isComponent_of_isPlainName hb'
  cases hp with
  | built hp =>
    cases hq with
    | built hq =>
      exact (apart_names hname hname' hne).of_mem_lineage hp.mem_lineage hq.mem_lineage
    | installed hq =>
      exact ha.of_mem_lineage (mem_lineage_trans (mem_lineage_name hname) hp.mem_lineage)
        (hq.installRoot_mem hb')
  | installed hp =>
    cases hq with
    | built hq =>
      exact ha.symm.of_mem_lineage (hp.installRoot_mem hb)
        (mem_lineage_trans (mem_lineage_name hname') hq.mem_lineage)
    | installed hq => exact hp.apart hb hb' hne hq

theorem ownsInstalled_of_mem (h : b.plan c s tree = .ok plan) (hp : p ∈ plan.installedFiles) :
    b.OwnsInstalled s p := by
  obtain ⟨selection, hs⟩ := exists_selection h
  rw [Plan.installedFiles, filter_install_actions h hs] at hp
  split at hp
  · split at hp
    · next hf =>
      split at hp
      · obtain ⟨act, hact, hp⟩ := List.mem_flatMap.1 hp
        obtain ⟨f, _, rfl⟩ := List.mem_map.1 hact
        rw [List.mem_singleton.1 hp, PackagedFile.destination_eq]
        exact .tree hf (mem_lineage_div (mem_lineage_self _) f.root_place)
      · cases hp
    · next hf =>
      obtain ⟨act, hact, hp⟩ := List.mem_flatMap.1 hp
      obtain ⟨payload, _, rfl⟩ := List.mem_map.1 hact
      rw [List.mem_singleton.1 hp]
      exact .archive payload (by simpa using hf)
  · cases hp

/-- The actions of a plan make what is the bundle's own. -/
theorem owns_of_mem_outputs {os : TargetOs} (hb : isPlainName b.name = true)
    (ht : b.target = os.common) (h : b.plan c s tree = .ok plan)
    (hp : p ∈ plan.actions.flatMap (·.outputs)) : b.Owns s p := by
  obtain ⟨act, hact, hp⟩ := List.mem_flatMap.1 hp
  by_cases hi : act.install = true
  · exact .installed (ownsInstalled_of_mem h (mem_installedFiles_of_install hact hi hp))
  · obtain ⟨x, hx, rfl⟩ := exists_of_mem_built h hact (by simpa using hi) hp
    exact .built (inside_output hb ht hx)

theorem inside_of_mem_outputs {os : TargetOs} (hb : isPlainName b.name = true)
    (ht : b.target = os.common) (h : b.plan c s tree = .ok plan)
    (hfiles : ∀ f ∈ c.files, isPlainName f.builtFile.name = true)
    (hp : p ∈ plan.actions.flatMap (·.outputs)) :
    (s.outDir / b.name : Path).Inside p ∨ (b.treeRoot s).Inside p ∨
      ∃ payload : Payload, p = s.installDir / (b.name ++ payload.ending) := by
  obtain ⟨act, hact, hp⟩ := List.mem_flatMap.1 hp
  by_cases hi : act.install = true
  · refine .inr ?_
    have hmem := mem_installedFiles_of_install hact hi hp
    rcases exists_of_mem_installedFiles h hmem with harchive | ⟨_, f, hf, rfl⟩
    · exact .inr harchive
    · have hplain : isPlainName f.builtFile.name = true := by
        rcases List.mem_append.1 hf with hf | hf
        · exact hfiles f hf
        · rw [List.mem_singleton.1 hf, name_flattenedManifest]
          decide
      obtain ⟨hne, hup⟩ := ne_of_isPlainName hplain
      have hplace : f.place.parts ≠ [] := by simp [PackagedFile.parts_place hne]
      exact .inl ((PackagedFile.inside_destination_iff hplace).2 hup)
  · obtain ⟨x, hx, rfl⟩ := exists_of_mem_built h hact (by simpa using hi) hp
    exact .inl (inside_output hb ht hx)

end BundleModule

namespace Workspace

variable {doc : Datum} {ds : List Declaration} {s₀ s : Settings} {dir : Path} {w w' : Workspace}
  {tree : FileTree} {names : List String} {a : Assembly} {o o' : Outcome} {plan plan' : Plan}

theorem target_of_mem_bundles (hs : w.Sound) (hw : ofDeclarations ds s₀ dir = .ok w)
    {b : BundleModule} (hb : b ∈ w.bundles) : b.target = s₀.targetOs.common := by
  obtain ⟨d, _, known, hdecl⟩ :=
    exists_declaration hw (ModuleGraph.mem_of_node? (hs.bundles b hb))
  generalize hn : b.toNode = n at hdecl
  have hkind : n.kind = .bundle b.node := hn ▸ rfl
  have htarget : b.target = n.target := hn ▸ rfl
  rw [htarget]
  cases hdecl with
  | bundle _ => rfl
  | _ => cases hkind

/-- Different bundles keep out of each other's way: no path that an action of one plan makes is one
that an action of the other plan makes, nor above or below one. With plain file names what a bundle
makes also stays below its directory, in its tree, or is one of its archives. -/
theorem outputs_apart (hd : Declaration.readDocument doc = .sound ds)
    (hw : ofDeclarations ds s₀ dir = .ok w) (ha : w.assemble s tree names = (w', .ok a))
    (ho : o ∈ a.outcomes) (hp : o.result = .ok plan) (ho' : o' ∈ a.outcomes)
    (hp' : o'.result = .ok plan') (hroots : Apart s.outDir s.installRoot)
    (hn : isPlainName o.bundle.name = true) (hn' : isPlainName o'.bundle.name = true)
    (hne : o.bundle.name ≠ o'.bundle.name) :
    (∀ p ∈ plan.actions.flatMap (·.outputs), ∀ q ∈ plan'.actions.flatMap (·.outputs),
      Apart p q) ∧
    ((∀ f ∈ plan.files, isPlainName f.builtFile.name = true) →
      ∀ p ∈ plan.actions.flatMap (·.outputs),
        (s.outDir / o.bundle.name : Path).Inside p ∨ (o.bundle.treeRoot s).Inside p ∨
          ∃ payload : Payload, p = s.installDir / (o.bundle.name ++ payload.ending)) := by
  have hs := sound_of_ofDeclarations (Declaration.keeps_of_readDocument hd) hw
  obtain ⟨hb, _, c, _, _, hplan, _⟩ := exists_of_outcome hs ha ho hp
  obtain ⟨hb', _, c', _, _, hplan', _⟩ := exists_of_outcome hs ha ho' hp'
  have ht := target_of_mem_bundles hs hw hb
  have ht' := target_of_mem_bundles hs hw hb'
  constructor
  · intro p hmem q hmem'
    have hown := BundleModule.owns_of_mem_outputs hn ht hplan hmem
    have hown' := BundleModule.owns_of_mem_outputs hn' ht' hplan' hmem'
    exact hown.apart hn hn' hne hroots hown'
  · intro hfiles p hmem
    rw [(BundleModule.plan_eq_ok hplan).1] at hfiles
    exact BundleModule.inside_of_mem_outputs hn ht hplan hfiles hmem

end Workspace

def neighbours : Datum := .obj [("modules", .arr [
  .obj [("type", .str "cc_library"), ("name", .str "a")],
  .obj [("type", .str "apex_key"), ("name", .str "k"), ("public_key", .str "p"),
    ("private_key", .str "q")],
  .obj [("type", .str "apex"), ("name", .str "z"), ("key", .str "k"),
    ("native_shared_libs", .arr [.str "a"]), ("payload_type", .str "both")],
  .obj [("type", .str "apex"), ("name", .str "z.apex"), ("key", .str "k"),
    ("native_shared_libs", .arr [.str "a"]), ("payload_type", .str "both"),
    ("file_contexts", .str "z")]])]

def neighbourSettings : Settings where
  sourceRoot := .here
  outDir := .ofString "out"
  installRoot := .ofString "install"
  targets := [.arm64]

theorem exists_outcomes_neighbours :
    ∃ o ∈ Workspace.outcomesOf neighbours neighbourSettings .here layeredTree,
      ∃ o' ∈ Workspace.outcomesOf neighbours neighbourSettings .here layeredTree,
        (o.ok = true ∧ o.bundle.name = "z") ∧ o'.ok = true ∧ o'.bundle.name = "z.apex" := by
  decide +kernel

theorem Workspace.outputs_apart_neighbours :
    ∃ ds w w' a o o' plan plan', Declaration.readDocument neighbours = .sound ds ∧
      ofDeclarations ds neighbourSettings .here = .ok w ∧
      w.assemble neighbourSettings layeredTree [] = (w', .ok a) ∧
      (o ∈ a.outcomes ∧ o.result = .ok plan ∧ o.bundle.name = "z") ∧
      (o' ∈ a.outcomes ∧ o'.result = .ok plan' ∧ o'.bundle.name = "z.apex") ∧
      ∀ p ∈ plan.actions.flatMap (·.outputs), ∀ q ∈ plan'.actions.flatMap (·.outputs),
        Apart p q := by
  obtain ⟨o, ho, o', ho', ⟨hok, hname⟩, hok', hname'⟩ := exists_outcomes_neighbours
  obtain ⟨ds, w, w', a, hd, hw, ha, ho⟩ := exists_of_mem_outcomesOf ho
  obtain ⟨ds', v, v', a', hd', hv, ha', ho'⟩ := exists_of_mem_outcomesOf ho'
  -- both outcomes come of one assembly
  obtain rfl : ds = ds' := Checked.sound.inj (hd.symm.trans hd')
  obtain rfl : w = v := Except.ok.inj (hw.symm.trans hv)
  obtain rfl : a = a' := Except.ok.inj (Prod.mk.inj (ha.symm.trans ha')).2
  obtain ⟨plan, hp⟩ := o.exists_of_ok hok
  obtain ⟨plan', hp'⟩ := o'.exists_of_ok hok'
  have hroots : Apart neighbourSettings.outDir neighbourSettings.installRoot :=
    ⟨by decide +kernel, by decide +kernel, by decide +kernel⟩
  have hapart := outputs_apart hd hw ha ho hp ho' hp' hroots (by rw [hname]; decide)
    (by rw [hname']; decide) (by rw [hname, hname']; decide)
  exact ⟨ds, w, w', a, o, o', plan, plan', hd, hw, ha, ⟨ho, hp, hname⟩, ⟨ho', hp', hname'⟩,
    hapart.1⟩

end BundleWright
