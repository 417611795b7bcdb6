import BundleWright.Proofs.Links
import BundleWright.Proofs.Propagation
/-!
What is built for a bundle covers what the bundle embeds. Main statements: the walk that obliges
nodes is shown every edge that the walk for files is shown, and each file of a plan comes from a
node that has its variant for the bundle, if it is a node that can have one.
-/
namespace BundleWright

open Annotation (enters enters_eq)

theorem Opens.hasBundleVariants_or_prebuilt {setSystemApart : Bool} {tag : Tag} {n : Node}
    (h : Opens setSystemApart tag n) : n.hasBundleVariants = true ∨ ∃ p, n.kind = .prebuilt p := by
  cases h with
  | prebuilt hk => exact .inr ⟨_, hk⟩
  | library hk | binary hk | translated hk | java hk =>
    exact .inl (by simp [Node.hasBundleVariants, hk])

namespace Findings

variable {g : ModuleGraph} {s : Settings} {b : BundleModule} {e : Edge}

/-- The children that the walk for files enters can be built per bundle, resource files apart. -/
theorem enters_or_prebuilt_of_opens (h : opens g s b e = true) :
    enters g e = true ∨ ∃ n p, g.node? e.child = some n ∧ n.kind = .prebuilt p := by
  obtain ⟨n, hn⟩ := node?_of_opens h
  rw [enters_eq hn]
  unfold opens at h
  by_cases hp : e.parent = b.id
  · rw [visit_direct s hp hn, fst_direct] at h
    exact h.hasBundleVariants_or_prebuilt.imp_right fun ⟨p, hk⟩ => ⟨n, p, hn, hk⟩
  · rw [visit_indirect s hp hn] at h
    obtain ⟨l, hl⟩ := carried_of_fst_indirect h
    exact .inl (by simp [Node.hasBundleVariants, hl.kind])

end Findings

namespace Workspace

variable {doc : Datum} {ds : List Declaration} {s₀ s : Settings} {dir : Path} {w w' : Workspace}
  {tree : FileTree} {names : List String} {a : Assembly} {o : Outcome} {plan : Plan}

theorem source_ne_of_prebuilt (hs : w.Sound) (hw : ofDeclarations ds s₀ dir = .ok w)
    (hg : w.Assembled s w') {id : NodeKey} {n : Node} {p : Prebuilt}
    (hn : w'.graph.node? id = some n) (hk : n.kind = .prebuilt p) :
    ∀ d ∈ w'.graph.edges, d.source ≠ id := by
  rintro d hd rfl
  rw [hg.settled.source_eq d hd] at hn
  obtain ⟨c, hlink⟩ := hg.exists_linked hs hd hn (by simp [Node.bundle?, hk])
  obtain ⟨_, _, known, hdecl⟩ := hg.exists_declaration hw hn
  rcases hdecl.native_or_java_of_deps (List.ne_nil_of_mem hlink.name_mem) with h | ⟨⟨j, h⟩, _⟩
  · simp [Node.isNative, hk] at h
  · simp [hk] at h

/-- The walk that obliges nodes is shown what the walk for files is shown. -/
theorem mem_shown_of_mem_edges (hs : w.Sound) (hw : ofDeclarations ds s₀ dir = .ok w)
    (hg : w.Assembled s w') {b : BundleModule} {e : Edge}
    (he : e ∈ Findings.edges w'.graph s b) :
    e ∈ w'.graph.shown b.id (enters w'.graph) := by
  refine ModuleGraph.mem_shown_of_covered (fun d _ hopen => ?_) he
  rcases Findings.enters_or_prebuilt_of_opens hopen with h | ⟨n, p, hn, hk⟩
  · exact .inl h
  · rw [hg.settled.keyOf_eq]
    exact .inr (source_ne_of_prebuilt hs hw hg hn hk)

theorem variants_of_assemble (hs : w.Sound) (h : w.assemble s tree names = (w', .ok a)) :
    w'.graph.Filed ∧ ∀ v, v ∈ w'.graph.variants ↔
      (∃ o ∈ (.ofBundles w'.graph w.bundles {} : Annotation).obligations,
        v = ⟨o.node, o.bundle, o.node⟩) ∨ ∃ b ∈ w.bundles, v = ⟨b.id, b.name, b.id⟩ := by
  obtain ⟨_, _, hgraph, _⟩ := assemble_eq_ok h
  have hfiled : (w.graph.withEdges (w.bundles.flatMap (w.graph.bundleEdges · s))).Filed :=
    ⟨hs.settled.withBundleEdges, by simp [ModuleGraph.withEdges, hs.variants]⟩
  obtain ⟨hm, he⟩ := ModuleGraph.propagate_frame
    (w.graph.withEdges (w.bundles.flatMap (w.graph.bundleEdges · s))) w.bundles {}
  rw [← hgraph] at hm he
  refine ⟨hgraph ▸ hfiled.propagate, fun v => ?_⟩
  have hsame := Annotation.ofBundles_congr hm he w.bundles {}
  rw [hsame, hgraph, hfiled.mem_variants_propagate]
  simp [ModuleGraph.withEdges, hs.variants]

/-- Each file of a plan comes from a node that has been built for the bundle, if it can be: the node
has its variant for the bundle, and the bundle is obliged to it. -/
theorem variants_cover_collection (hd : Declaration.readDocument doc = .sound ds)
    (hw : ofDeclarations ds s₀ dir = .ok w) (ha : w.assemble s tree names = (w', .ok a))
    (ho : o ∈ a.outcomes) (hp : o.result = .ok plan) :
    ∀ f ∈ plan.files, ∃ n, f.owner = some n.key ∧ w'.graph.node? n.key = some n ∧
      (n.hasBundleVariants = true →
        w'.graph.variant? n.key o.bundle.name = some ⟨n.key, o.bundle.name, n.key⟩ ∧
        ∀ g ∈ [(w.graph.addAllBundleDependencies s w.bundles).1, w'.graph], ∀ table,
          ⟨n.key, o.bundle.name⟩ ∈
            (.ofBundle g o.bundle { table := table } : Annotation).obligations) := by
  have hs := sound_of_ofDeclarations (Declaration.keeps_of_readDocument hd) hw
  have hg := assembled_of_assemble hs ha
  obtain ⟨hb, _, c, _, hc, hplan, _⟩ := exists_of_outcome hs ha ho hp
  rw [(BundleModule.plan_eq_ok hplan).1]
  intro f hf
  obtain ⟨e, he, n, hn, hof⟩ := Collection.exists_edge hc hf
  have hkey := hg.settled.key_of_node? hn
  refine ⟨n, hof.owner, hkey ▸ hn, fun hv => ?_⟩
  have hshown := mem_shown_of_mem_edges hs hw hg he
  have henters : enters w'.graph e = true := by rw [enters_eq hn, hv]
  have hobliged (a : Annotation) :
      ⟨n.key, o.bundle.name⟩ ∈ (.ofBundle w'.graph o.bundle a : Annotation).obligations :=
    Annotation.mem_obligations_ofBundle.2 (.inr ⟨e, hshown, henters, by rw [hkey]⟩)
  constructor
  · obtain ⟨hfiled, hvariants⟩ := variants_of_assemble hs ha
    have hall : ⟨n.key, o.bundle.name⟩ ∈
        (.ofBundles w'.graph w.bundles {} : Annotation).obligations :=
      Annotation.mem_obligations_ofBundles.2
        (.inr ⟨o.bundle, hb, e, hshown, henters, by rw [hkey]⟩)
    exact hfiled.variant?_eq_some_iff.2 ⟨(hvariants _).2 (.inl ⟨_, hall, rfl⟩), rfl⟩
  · intro g hmem table
    have hsame : g.members = w'.graph.members ∧ g.edges = w'.graph.edges := by
      rw [ModuleGraph.addAllBundleDependencies_eq] at hmem
      rcases List.mem_pair.1 hmem with rfl | rfl
      · exact ⟨hg.members.symm, hg.edges.symm⟩
      · exact ⟨rfl, rfl⟩
    have hannotated := Annotation.ofBundle_congr hsame.1 hsame.2 o.bundle { table := table }
    rw [hannotated]
    exact hobliged _

theorem variants_cover_collection_layered :
    ∃ ds w w' a o plan, Declaration.readDocument layered = .sound ds ∧
      ofDeclarations ds layeredSettings .here = .ok w ∧
      w.assemble layeredSettings layeredTree [] = (w', .ok a) ∧ o ∈ a.outcomes ∧
      o.result = .ok plan ∧ ∀ f ∈ plan.files, ∃ n, f.owner = some n.key ∧
        w'.graph.node? n.key = some n ∧ (n.hasBundleVariants = true →
          w'.graph.variant? n.key o.bundle.name = some ⟨n.key, o.bundle.name, n.key⟩) := by
  obtain ⟨ds, w, w', a, o, plan, hd, hw, ha, ho, _, hp⟩ := exists_plan exists_outcome_layered
  refine ⟨ds, w, w', a, o, plan, hd, hw, ha, ho, hp, fun f hf => ?_⟩
  obtain ⟨n, hown, hn, hv⟩ := variants_cover_collection hd hw ha ho hp f hf
  exact ⟨n, hown, hn, fun h => (hv h).1⟩

end Workspace

end BundleWright
