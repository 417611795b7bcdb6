import BundleWright.Proofs.Alike
import BundleWright.Proofs.Variants
/-!
The order of declarations. Main statement: declarations in another order make a workspace just when
they do in the first one, and all that assembling makes of it is the same, bundle by bundle.
-/
namespace BundleWright

theorem filter_key_eq_of_perm {α β : Type} [DecidableEq β] {l l' : List α} {f : α → β}
    (hp : l'.Perm l) (hn : (l.map f).Nodup) (y : β) :
    l'.filter (f · = y) = l.filter (f · = y) := by
  by_cases h : ∃ a ∈ l, f a = y
  · obtain ⟨a, ha, rfl⟩ := h
    rw [filter_key_eq_singleton hn ha,
      filter_key_eq_singleton ((hp.map f).nodup_iff.2 hn) (hp.mem_iff.2 ha)]
  · have hnone (k : List α) (hk : ∀ a ∈ k, a ∈ l) : k.filter (f · = y) = [] := by
      simp only [List.filter_eq_nil_iff, decide_eq_true_eq]
      exact fun a ha he => h ⟨a, hk a ha, he⟩
    rw [hnone l' fun a => hp.mem_iff.1, hnone l fun a => id]

theorem find?_key_eq_of_perm {α β : Type} [DecidableEq β] {l l' : List α} {f : α → β}
    (hp : l'.Perm l) (hn : (l.map f).Nodup) (y : β) :
    l'.find? (f · = y) = l.find? (f · = y) := by
  rw [← List.head?_filter, ← List.head?_filter, filter_key_eq_of_perm hp hn]

theorem exists_of_perm_map_ok {ε α : Type} {l : List (Except ε α)} {as : List α}
    (h : l.Perm (as.map .ok)) : ∃ bs : List α, l = bs.map .ok ∧ bs.Perm as := by
  refine ⟨l.filterMap Except.toOption, ?_, ?_⟩
  · have hok : ∀ x ∈ l, ∃ a, x = .ok a := fun x hx => by
      obtain ⟨a, _, rfl⟩ := List.mem_map.1 (h.mem_iff.1 hx)
      exact ⟨a, rfl⟩
    -- that nothing in `l` failed is all that the induction needs
    clear h
    induction l with
    | nil => rfl
    | cons x l ih =>
      obtain ⟨a, rfl⟩ := hok x (by simp)
      simpa [Except.toOption] using ih fun y hy => hok y (by simp [hy])
  · have hp := h.filterMap Except.toOption
    rwa [List.filterMap_map, show Except.toOption ∘ .ok = (some : α → Option α) from rfl,
      List.filterMap_some] at hp

namespace Declaration

variable {ds ds' : List Declaration} {known : List BundleDefaults} {s : Settings} {dir : Path}

theorem sublist_defaultsAmong (ds : List Declaration) :
    ((defaultsAmong ds).map (·.name)).Sublist (ds.map name) := by
  induction ds with
  | nil => exact .slnil
  | cons d ds ih =>
    cases d with
    | defaults d => exact ih.cons_cons _
    | _ => exact ih.cons _

theorem sameDefaults_of_perm (hp : ds'.Perm ds) (hn : (ds.map name).Nodup) :
    SameDefaults (defaultsAmong ds) (defaultsAmong ds') :=
  find?_key_eq_of_perm (hp.filterMap _) ((sublist_defaultsAmong ds).nodup hn)

theorem builtNodes_perm (hp : ds'.Perm ds) :
    (builtNodes known s dir ds').Perm (builtNodes known s dir ds) :=
  hp.flatMap_right _

theorem builtBundles_perm (hp : ds'.Perm ds) :
    (builtBundles known s dir ds').Perm (builtBundles known s dir ds) :=
  hp.flatMap_right _

end Declaration

namespace Workspace

open Declaration

variable {ds ds' : List Declaration} {known : List BundleDefaults} {s : Settings} {dir : Path}
  {w w' : Workspace} {tree : FileTree} {a : Assembly}

theorem find?_perm (hp : ds'.Perm ds) (hn : (ds.map Declaration.name).Nodup) (name : String)
    (sel : Selector) :
    (ModuleGraph.ofNodes (builtNodes known s dir ds')).find? name sel =
      (ModuleGraph.ofNodes (builtNodes known s dir ds)).find? name sel := by
  have hnamed : (ModuleGraph.ofNodes (builtNodes known s dir ds')).named name =
      (ModuleGraph.ofNodes (builtNodes known s dir ds)).named name := by
    rw [ModuleGraph.named_ofNodes, ModuleGraph.named_ofNodes, filter_builtNodes, filter_builtNodes,
      filter_key_eq_of_perm hp hn]
  rw [ModuleGraph.find?, ModuleGraph.find?, hnamed]

theorem ofDeclarations_perm (hp : ds'.Perm ds) (hw : ofDeclarations ds s dir = .ok w) :
    ofDeclarations ds' s dir = .ok (built (defaultsAmong ds) s dir ds') := by
  obtain ⟨hn, hparts, hkeys, hfinds, _⟩ := ofDeclarations_eq_ok_iff.1 hw
  have hknown := sameDefaults_of_perm hp hn
  rw [ofDeclarations_eq_ok_iff]
  simp only [nodes_congr hknown, builtNodes_congr hknown]
  refine ⟨(hp.map _).nodup_iff.2 hn, fun d hd => hparts d (hp.mem_iff.1 hd),
    ((builtNodes_perm hp).map _).nodup_iff.2 hkeys, fun n hmem name hname => ?_, ?_⟩
  · rw [find?_perm hp hn]
    exact hfinds n ((builtNodes_perm hp).mem_iff.1 hmem) name hname
  · simp only [built, builtNodes_congr hknown, builtBundles_congr hknown]

theorem alike_of_perm (hk : ∀ d ∈ ds, d.Keeps) (hp : ds'.Perm ds)
    (hw : ofDeclarations ds s dir = .ok w) (hw' : ofDeclarations ds' s dir = .ok w') :
    Alike (fun _ => False) w w' ∧ w'.bundles.Perm w.bundles := by
  have hsound := sound_of_ofDeclarations hk hw
  have hsound' := sound_of_ofDeclarations (fun d hd => hk d (hp.mem_iff.1 hd)) hw'
  have hlinks := edges_of_ofDeclarations hw
  have hlinks' := edges_of_ofDeclarations hw'
  have hbuilt' := ofDeclarations_perm hp hw
  obtain ⟨hn, _, _, _, rfl⟩ := ofDeclarations_eq_ok_iff.1 hw
  obtain rfl := Except.ok.inj (hbuilt'.symm.trans hw')
  refine ⟨⟨hsound, hsound', hlinks, hlinks', fun name _ => ?_, fun name _ => ?_,
    fun _ h => h.elim⟩, builtBundles_perm hp⟩
  · rw [named_built, named_built, filter_key_eq_of_perm hp hn]
  · rw [filter_bundles_built, filter_bundles_built, filter_key_eq_of_perm hp hn]

namespace Alike

theorem node?_wired_eq (h : Alike (fun _ => False) w w') :
    (w'.wired s).node? = (w.wired s).node? := by
  funext id
  rw [node?_wired, node?_wired, h.node?_eq not_false]

theorem dependencies_wired_eq (h : Alike (fun _ => False) w w') :
    (w'.wired s).dependencies = (w.wired s).dependencies :=
  funext fun _ => h.dependencies_eq not_false

/-- Workspaces that hide nothing from each other have the same ways and tell the same. -/
theorem buildsAlong_eq (h : Alike (fun _ => False) w w') :
    (w'.wired s).BuildsAlong = (w.wired s).BuildsAlong := by
  funext x y
  simp only [ModuleGraph.BuildsAlong, h.dependencies_wired_eq, h.node?_wired_eq]

theorem installs_iff (h : Alike (fun _ => False) w w') {b : BundleModule} {p : String × String} :
    b.Installs (w'.wired s) p ↔ b.Installs (w.wired s) p := by
  simp only [BundleModule.Installs, h.dependencies_wired_eq, h.node?_wired_eq]

end Alike

theorem Sound.filed_wired (hw : w.Sound) (s : Settings) : (w.wired s).Filed :=
  ⟨hw.settled.withBundleEdges, by simp [wired, ModuleGraph.withEdges, hw.variants]⟩

section Orders

open Annotation (mem_table_ofBundles nodup_table_ofBundles)

variable (h : Alike (fun _ => False) w w') (hp : w'.bundles.Perm w.bundles)
include h hp

theorem table_perm : ((w'.wired s).propagate w'.bundles {}).2.1.entries.Perm
    ((w.wired s).propagate w.bundles {}).2.1.entries := by
  refine (List.perm_ext_iff_of_nodup (nodup_table_ofBundles List.nodup_nil)
    (nodup_table_ofBundles List.nodup_nil)).2 fun p => ?_
  refine (mem_table_ofBundles (h.sound'.filed_wired s).settled).trans (.trans ?_
    (mem_table_ofBundles (h.sound.filed_wired s).settled).symm)
  simp only [h.installs_iff, hp.mem_iff]

theorem variants_perm : ((w'.wired s).propagate w'.bundles {}).2.2.Perm
    ((w.wired s).propagate w.bundles {}).2.2 := by
  have hnode {v : Workspace} (hv : v.Sound) (b : BundleModule) (hb : b ∈ v.bundles) :
      (v.wired s).node? b.id = some b.toNode := by
    rw [node?_wired]
    exact hv.bundles b hb
  refine (List.perm_ext_iff_of_nodup
    ((h.sound'.filed_wired s).nodup_snd_propagate (hnode h.sound') h.sound'.names)
    ((h.sound.filed_wired s).nodup_snd_propagate (hnode h.sound) h.sound.names)).2 fun v => ?_
  simp only [(h.sound'.filed_wired s).snd_propagate, (h.sound.filed_wired s).snd_propagate,
    List.mem_append, (h.sound'.filed_wired s).settled.mem_variantsFor_ofBundles,
    (h.sound.filed_wired s).settled.mem_variantsFor_ofBundles, h.buildsAlong_eq, List.mem_map,
    hp.mem_iff]

theorem assemble_perm (ha : (w.assemble s tree []).2 = .ok a) :
    ∃ a', (w'.assemble s tree []).2 = .ok a' ∧ a'.outcomes.Perm a.outcomes ∧
      a'.table.entries.Perm a.table.entries ∧ a'.variants.Perm a.variants := by
  obtain ⟨_, hsel, hpos, hmap, htable, hvariants⟩ := exists_select_of_assemble ha
  cases hsel
  have hsame : ∀ b ∈ w'.bundles,
      outcome (w'.wired s) s tree (w'.reports s) w'.bundles b =
        outcome (w.wired s) s tree (w.reports s) w.bundles b := fun b hb =>
    h.outcome_eq (hp.mem_iff.1 hb) not_false (hp.countP_eq _) tree
  obtain ⟨os, hos, hperm⟩ := exists_of_perm_map_ok (hmap ▸ hp.map _)
  rw [← List.map_congr_left hsame] at hos
  refine ⟨_, assemble_of_map rfl hpos hos, hperm, ?_, ?_⟩
  · rw [htable]
    exact table_perm h hp
  · rw [hvariants]
    exact variants_perm h hp

end Orders

theorem Alike.symm (h : Alike (fun _ => False) w w') : Alike (fun _ => False) w' w where
  sound := h.sound'
  sound' := h.sound
  links := h.links'
  links' := h.links
  named name hn := (h.named name hn).symm
  bundles name hn := (h.bundles name hn).symm
  hides _ hn := hn.elim

theorem map_name_outcomes (ha : (w.assemble s tree []).2 = .ok a) :
    a.outcomes.map (·.bundle.name) = w.bundles.map (·.name) := by
  obtain ⟨_, hsel, _, hmap, _⟩ := exists_select_of_assemble ha
  cases hsel
  exact map_eq_of_map_ok hmap fun b o ho => by rw [bundle_of_outcome ho]

/-- Declarations in another order make a workspace just when they do in this one. All bundles are
then assembled, or none is, and each has the same outcome; so have the table and the variants the
same entries. -/
theorem order_irrelevant {doc : Datum} (hd : Declaration.readDocument doc = .sound ds)
    (hp : ds'.Perm ds) (s₀ : Settings) (dir : Path) :
    ((∃ w', ofDeclarations ds' s₀ dir = .ok w') ↔ ∃ w, ofDeclarations ds s₀ dir = .ok w) ∧
    ∀ w w', ofDeclarations ds s₀ dir = .ok w → ofDeclarations ds' s₀ dir = .ok w' →
      ∀ (s : Settings) (tree : FileTree),
        ((∃ a', (w'.assemble s tree []).2 = .ok a') ↔ ∃ a, (w.assemble s tree []).2 = .ok a) ∧
        ∀ a a', (w.assemble s tree []).2 = .ok a → (w'.assemble s tree []).2 = .ok a' →
          a'.outcomes.Perm a.outcomes ∧ (∀ name, a'.outcome? name = a.outcome? name) ∧
            a'.table.entries.Perm a.table.entries ∧ a'.variants.Perm a.variants := by
  refine ⟨⟨?_, ?_⟩, fun w w' hw hw' s tree => ?_⟩
  · rintro ⟨w', hw'⟩
    exact ⟨_, ofDeclarations_perm hp.symm hw'⟩
  · rintro ⟨w, hw⟩
    exact ⟨_, ofDeclarations_perm hp hw⟩
  · obtain ⟨h, hbundles⟩ := alike_of_perm (Declaration.keeps_of_readDocument hd) hp hw hw'
    refine ⟨⟨?_, ?_⟩, fun a a' ha ha' => ?_⟩
    · rintro ⟨a', ha'⟩
      obtain ⟨a, ha, _⟩ := assemble_perm h.symm hbundles.symm ha'
      exact ⟨a, ha⟩
    · rintro ⟨a, ha⟩
      obtain ⟨a', ha', _⟩ := assemble_perm h hbundles ha
      exact ⟨a', ha'⟩
    · obtain ⟨a₁, ha₁, hos, htable, hvariants⟩ := assemble_perm h hbundles ha
      obtain rfl : a' = a₁ := Except.ok.inj (ha'.symm.trans ha₁)
      refine ⟨hos, fun name => find?_key_eq_of_perm hos ?_ name, htable, hvariants⟩
      rw [map_name_outcomes ha]
      exact h.sound.names

theorem order_irrelevant_layered :
    ∃ ds w w' a a', Declaration.readDocument layered = .sound ds ∧ ds.reverse.Perm ds ∧
      ofDeclarations ds layeredSettings .here = .ok w ∧
      ofDeclarations ds.reverse layeredSettings .here = .ok w' ∧
      (w.assemble layeredSettings layeredTree []).2 = .ok a ∧
      (w'.assemble layeredSettings layeredTree []).2 = .ok a' ∧
      (∃ o ∈ a.outcomes, o.ok = true) ∧ ∀ name, a'.outcome? name = a.outcome? name := by
  obtain ⟨ds, w, _, a, o, _, hd, hw, ha, ho, hok, _⟩ := exists_plan exists_outcome_layered
  obtain ⟨hbuilt, hsame⟩ := order_irrelevant hd ds.reverse_perm layeredSettings .here
  obtain ⟨w', hw'⟩ := hbuilt.2 ⟨w, hw⟩
  obtain ⟨hassembled, hall⟩ := hsame w w' hw hw' layeredSettings layeredTree
  have ha₂ := congrArg Prod.snd ha
  obtain ⟨a', ha'⟩ := hassembled.2 ⟨a, ha₂⟩
  exact ⟨ds, w, w', a, a', hd, ds.reverse_perm, hw, hw', ha₂, ha', ⟨o, ho, hok⟩,
    (hall a a' ha₂ ha').2.1⟩

end Workspace

end BundleWright
