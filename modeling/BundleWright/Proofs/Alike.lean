import BundleWright.Proofs.Registration
/-!
Workspaces that differ in a few bundles at most. Main statement: what a bundle outside of the
difference asks for, what is reported about it and what is planned for it is the same in both, since
no walk down from it enters a bundle.
-/
namespace BundleWright

namespace ModuleGraph

variable {g : ModuleGraph} {id : NodeKey}

theorem node?_eq_named (id : NodeKey) :
    g.node? id = ((g.named id.name).find? (·.id = id)).map (·.node) := by
  rw [node?, named, List.find?_filter]
  congr 2
  funext m
  by_cases h : m.id = id <;> simp [h]

theorem Settled.dependencies_eq_named (hg : g.Settled)
    (hl : g.edges = g.nodes.flatMap g.linksOf) (id : NodeKey) :
    g.dependencies id =
      ((g.named id.name).filter (·.id = id)).flatMap fun m => g.linksOf m.node := by
  have hown (m : Member) (hm : m ∈ g.members) : (g.linksOf m.node).filter (·.source = id) =
      if decide (m.id = id) = true then g.linksOf m.node else [] := by
    have hsource : ∀ e ∈ g.linksOf m.node, e.source = m.id := by
      intro e he
      obtain ⟨_, _, _, _, rfl⟩ := mem_linksOf_iff.1 he
      simp [hg.keyOf_eq, hg.key_eq m hm]
    split
    · next h => simpa [List.filter_eq_self, ← of_decide_eq_true h] using hsource
    · next h =>
      simp only [List.filter_eq_nil_iff, decide_eq_true_eq]
      exact fun e he heq => h (decide_eq_true ((hsource e he).symm.trans heq))
  have hmembers : (g.named id.name).filter (·.id = id) = g.members.filter (·.id = id) := by
    rw [named, List.filter_filter]
    congr 1
    funext m
    by_cases h : m.id = id <;> simp [h]
  rw [hmembers, ← filter_flatMap_eq hown, dependencies, hl, hg.keyOf_eq, nodes, List.flatMap_map]

end ModuleGraph

namespace Findings

variable {s : Settings} {b : BundleModule} {found : Findings} {n : Node} {x : BundleNode}

/-- A bundle is neither installed into another one nor entered. -/
theorem direct_of_bundle (hk : n.kind = .bundle x) (tag : Tag) :
    direct s b found tag n = (false, if tag = .moduleDep then found
      else found.report b (.wrongKind tag n.name)) := by
  cases n
  cases hk
  cases tag <;> rfl

theorem indirect_of_bundle (hk : n.kind = .bundle x) : indirect b found n = (false, found) := by
  simp [indirect, hk]

end Findings

namespace Workspace

def wired (w : Workspace) (s : Settings) : ModuleGraph :=
  w.graph.withEdges (w.bundles.flatMap (w.graph.bundleEdges · s))

theorem node?_wired (w : Workspace) (s : Settings) : (w.wired s).node? = w.graph.node? :=
  funext (ModuleGraph.node?_congr rfl)

theorem Sound.name_of_id {w : Workspace} (hw : w.Sound) {b : BundleModule} (hb : b ∈ w.bundles) :
    b.id.name = b.name := by
  rw [← hw.key_eq hb]
  rfl

theorem Sound.filter_id {w : Workspace} (hw : w.Sound) (id : NodeKey) :
    w.bundles.filter (·.id = id) = (w.bundles.filter (·.name = id.name)).filter (·.id = id) := by
  rw [List.filter_filter]
  refine List.filter_congr fun b hb => ?_
  by_cases h : b.id = id
  · simp [← h, hw.name_of_id hb]
  · simp [h]

/-- Two workspaces with the same modules and bundles but for the names in `hidden`, which stand for
one bundle in each of them. -/
structure Alike (hidden : String → Prop) (w w' : Workspace) : Prop where
  sound : w.Sound
  sound' : w'.Sound
  links : w.graph.edges = w.graph.nodes.flatMap w.graph.linksOf
  links' : w'.graph.edges = w'.graph.nodes.flatMap w'.graph.linksOf
  named : ∀ name, ¬hidden name → w'.graph.named name = w.graph.named name
  bundles : ∀ name, ¬hidden name →
    w'.bundles.filter (·.name = name) = w.bundles.filter (·.name = name)
  hides : ∀ name, hidden name → ∃ b b' : BundleModule, b'.id = b.id ∧ b'.name = b.name ∧
    b'.toNode.variations = b.toNode.variations ∧
    w.graph.named name = [⟨b.id, b.toNode⟩] ∧ w'.graph.named name = [⟨b'.id, b'.toNode⟩]

namespace Alike

variable {hidden : String → Prop} {w w' : Workspace} {s : Settings} {b : BundleModule}
  {id : NodeKey} {name : String}

theorem find?_id (h : Alike hidden w w') (name : String) (sel : Selector) :
    (w'.graph.find? name sel).map Member.id = (w.graph.find? name sel).map Member.id := by
  by_cases hname : hidden name
  · obtain ⟨b, b', hid, _, hvar, hn, hn'⟩ := h.hides name hname
    have hagrees : ModuleGraph.agrees sel b'.toNode = ModuleGraph.agrees sel b.toNode := by
      rw [ModuleGraph.agrees, ModuleGraph.agrees, hvar]
    cases ha : ModuleGraph.agrees sel b.toNode <;>
      simp [ModuleGraph.find?, hn, hn', hagrees, ha, hid]
  · rw [ModuleGraph.find?, ModuleGraph.find?, h.named name hname]

theorem find?_isNone (h : Alike hidden w w') (name : String) (sel : Selector) :
    (w'.graph.find? name sel).isNone = (w.graph.find? name sel).isNone := by
  have hid := congrArg Option.isNone (h.find?_id name sel)
  simpa using hid

theorem linksOf_eq (h : Alike hidden w w') : w'.graph.linksOf = w.graph.linksOf := by
  funext n
  simp only [ModuleGraph.linksOf, h.sound.settled.keyOf_eq, h.sound'.settled.keyOf_eq]
  refine List.filterMap_congr fun name _ => ?_
  have hid := congrArg (Option.map fun c => (⟨n.key, c, .moduleDep, n.key⟩ : Edge))
    (h.find?_id name (ModuleGraph.ownSelector n))
  simpa [Function.comp_def] using hid

theorem edge?_eq (h : Alike hidden w w') (b : BundleModule) :
    Request.edge? w'.graph b = Request.edge? w.graph b := by
  funext r
  simp only [Request.edge?, h.sound.settled.keyOf_eq, h.sound'.settled.keyOf_eq]
  have hid := congrArg (Option.map fun c => (⟨b.id, c, r.tag, b.id⟩ : Edge))
    (h.find?_id r.name r.selector)
  simpa [Function.comp_def] using hid

theorem report?_eq (h : Alike hidden w w') (b : BundleModule) :
    Request.report? w'.graph b = Request.report? w.graph b := by
  funext r
  have hnone := h.find?_isNone r.name r.selector
  unfold Request.report?
  cases hf : w.graph.find? r.name r.selector <;>
    cases hf' : w'.graph.find? r.name r.selector <;> simp_all

theorem bundleEdges_eq (h : Alike hidden w w') (b : BundleModule) :
    w'.graph.bundleEdges b s = w.graph.bundleEdges b s := by
  rw [ModuleGraph.bundleEdges, ModuleGraph.bundleEdges, h.edge?_eq]

theorem bundleReport_eq (h : Alike hidden w w') (b : BundleModule) :
    w'.graph.bundleReport b s = w.graph.bundleReport b s := by
  rw [ModuleGraph.bundleReport, ModuleGraph.bundleReport, h.report?_eq]

theorem node?_eq (h : Alike hidden w w') (hid : ¬hidden id.name) :
    w'.graph.node? id = w.graph.node? id := by
  rw [ModuleGraph.node?_eq_named, ModuleGraph.node?_eq_named, h.named _ hid]

theorem node?_of_hidden (h : Alike hidden w w') (hid : hidden id.name) :
    w.graph.node? id = none ∧ w'.graph.node? id = none ∨
      ∃ b b' : BundleModule, b'.name = b.name ∧ w.graph.node? id = some b.toNode ∧
        w'.graph.node? id = some b'.toNode := by
  obtain ⟨b, b', hbid, hname, _, hn, hn'⟩ := h.hides _ hid
  by_cases he : b.id = id
  · refine .inr ⟨b, b', hname, ?_, ?_⟩ <;> simp [ModuleGraph.node?_eq_named, hn, hn', hbid, he]
  · refine .inl ⟨?_, ?_⟩ <;> simp [ModuleGraph.node?_eq_named, hn, hn', hbid, he]

theorem dependencies_eq (h : Alike hidden w w') (hid : ¬hidden id.name) :
    (w'.wired s).dependencies id = (w.wired s).dependencies id := by
  have hbundles : w'.bundles.filter (·.id = id) = w.bundles.filter (·.id = id) := by
    rw [h.sound.filter_id, h.sound'.filter_id, h.bundles _ hid]
  rw [wired, wired, ModuleGraph.dependencies_withEdges_bundles h.sound.settled,
    ModuleGraph.dependencies_withEdges_bundles h.sound'.settled,
    h.sound.settled.dependencies_eq_named h.links,
    h.sound'.settled.dependencies_eq_named h.links', h.named _ hid, h.linksOf_eq, hbundles]
  congr 2
  funext b
  exact h.bundleEdges_eq b

theorem visit_eq (h : Alike hidden w w') (b : BundleModule) :
    Findings.visit (w'.wired s) s b = Findings.visit (w.wired s) s b := by
  funext found e
  rw [Findings.visit, Findings.visit, node?_wired, node?_wired]
  by_cases hid : hidden e.child.name
  -- of a bundle at the end of an edge the visitor uses nothing but the name
  · rcases h.node?_of_hidden hid with ⟨hn, hn'⟩ | ⟨c, c', hname, hn, hn'⟩
    · rw [hn, hn']
    · have hk : c.toNode.kind = .bundle c.node := rfl
      have hk' : c'.toNode.kind = .bundle c'.node := rfl
      have hname' : c'.toNode.name = c.toNode.name := hname
      rw [hn, hn']
      simp only [Findings.direct_of_bundle hk, Findings.direct_of_bundle hk',
        Findings.indirect_of_bundle hk, Findings.indirect_of_bundle hk', hname']
  · rw [h.node?_eq hid]

theorem not_hidden_of_visit (h : Alike hidden w w') {found : Findings} {e : Edge}
    (he : (Findings.visit (w.wired s) s b found e).1 = true) : ¬hidden e.child.name := by
  intro hid
  rw [Findings.visit, node?_wired] at he
  rcases h.node?_of_hidden hid with ⟨hn, _⟩ | ⟨c, _, _, hn, _⟩
  · simp [hn] at he
  · have hk : c.toNode.kind = .bundle c.node := rfl
    simp only [hn, Findings.direct_of_bundle hk, Findings.indirect_of_bundle hk] at he
    split at he <;> cases he

theorem findings_eq (h : Alike hidden w w') (hb : ¬hidden b.id.name) :
    Findings.ofBundle (w'.wired s) s b = Findings.ofBundle (w.wired s) s b := by
  have hk (id : NodeKey) : (w'.wired s).keyOf id = (w.wired s).keyOf id := by
    simp only [ModuleGraph.keyOf_congr (ModuleGraph.members_withEdges ..), wired,
      h.sound.settled.keyOf_eq, h.sound'.settled.keyOf_eq]
  rw [Findings.ofBundle, Findings.ofBundle, h.visit_eq,
    ModuleGraph.walk_eq hk (fun _ e he => h.dependencies_eq (h.not_hidden_of_visit he))
      (h.dependencies_eq hb)]

theorem generate_eq (h : Alike hidden w w') (hb : ¬hidden b.id.name) (tree : FileTree) :
    (w'.wired s).generate b s tree = (w.wired s).generate b s tree := by
  have hc : Collection.ofBundle (w'.wired s) b s = Collection.ofBundle (w.wired s) b s := by
    rw [Collection.ofBundle, Collection.ofBundle, h.findings_eq hb]
  rw [ModuleGraph.generate, ModuleGraph.generate, ModuleGraph.planOf, ModuleGraph.planOf, hc]

/-- A bundle out of the difference has the same outcome in both, if it is chosen as often. -/
theorem outcome_eq (h : Alike hidden w w') (hb : b ∈ w.bundles) (hname : ¬hidden b.name)
    {selected selected' : List BundleModule}
    (htimes : selected'.countP (·.name = b.name) = selected.countP (·.name = b.name))
    (tree : FileTree) :
    outcome (w'.wired s) s tree (w'.reports s) selected' b =
      outcome (w.wired s) s tree (w.reports s) selected b := by
  have hb' : b ∈ w'.bundles := by
    have hmem : b ∈ w'.bundles.filter (·.name = b.name) := by
      rw [h.bundles _ hname]
      exact List.mem_filter.2 ⟨hb, by simp⟩
    exact (List.mem_filter.1 hmem).1
  have hid : ¬hidden b.id.name := by rwa [h.sound.name_of_id hb]
  rw [Workspace.outcome_eq h.sound hb, Workspace.outcome_eq h.sound' hb', htimes,
    h.bundleReport_eq]
  cases w.graph.bundleReport b s with
  | error e => rfl
  | ok reported => rw [outcomeOf, outcomeOf, h.generate_eq hid]

end Alike

section Assemble

variable {w : Workspace} {s : Settings} {tree : FileTree} {names : List String}
  {selected : List BundleModule}

theorem assemble_eq (h : w.select names = .ok selected) :
    (w.assemble s tree names).2 =
      (outcomes (w.wired s) s tree (w.reports s) selected).map fun os =>
        { outcomes := os
          table := ((w.wired s).propagate w.bundles {}).2.1
          variants := ((w.wired s).propagate w.bundles {}).2.2 } := by
  obtain ⟨hm, he⟩ := ModuleGraph.propagate_frame (w.wired s) w.bundles {}
  rw [← outcomes_congr hm he, assemble, h]
  simp only [ModuleGraph.addAllBundleDependencies_eq]
  rfl

theorem exists_select_of_assemble {a : Assembly} (h : (w.assemble s tree names).2 = .ok a) :
    ∃ selected, w.select names = .ok selected ∧ 0 < s.maxConcurrentBundles ∧
      selected.map (outcome (w.wired s) s tree (w.reports s) selected) = a.outcomes.map .ok ∧
      a.table = ((w.wired s).propagate w.bundles {}).2.1 ∧
      a.variants = ((w.wired s).propagate w.bundles {}).2.2 := by
  cases hsel : w.select names with
  | error e => simp [assemble, hsel] at h
  | ok selected =>
    rw [assemble_eq hsel] at h
    obtain ⟨os, hos, rfl⟩ := exists_of_map_eq_ok h
    unfold outcomes at hos
    split at hos
    · cases hos
    · next hpos =>
      exact ⟨selected, rfl, by omega, mapM_eq_ok_iff.1 (exists_of_mapError_eq_ok hos), rfl, rfl⟩

theorem assemble_of_map {os : List Outcome} (hs : w.select names = .ok selected)
    (hpos : 0 < s.maxConcurrentBundles)
    (h : selected.map (outcome (w.wired s) s tree (w.reports s) selected) = os.map .ok) :
    (w.assemble s tree names).2 = .ok
      { outcomes := os
        table := ((w.wired s).propagate w.bundles {}).2.1
        variants := ((w.wired s).propagate w.bundles {}).2.2 } := by
  rw [assemble_eq hs, outcomes, if_neg (by omega), mapM_eq_ok_iff.2 h]
  rfl

end Assemble

end Workspace

end BundleWright
