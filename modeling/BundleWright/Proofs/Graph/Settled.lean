import BundleWright.InstallTable
import BundleWright.Proofs.Graph.Reach
/-!
Graphs whose nodes are as they were registered. Main statements: registering nodes, adding edges and
making variants keep a graph so, and in such a graph the edges of a node are those that leave it.
-/
namespace BundleWright.ModuleGraph

/-- Nodes have keys of their own, by which they are known, and edges are filed under parents. -/
structure Settled (g : ModuleGraph) : Prop where
  key_eq : ∀ m ∈ g.members, m.node.key = m.id
  nodup : (g.members.map Member.id).Nodup
  source_eq : ∀ e ∈ g.edges, e.source = e.parent

variable {g g' : ModuleGraph} {id : NodeKey} {n : Node}

theorem mem_of_node? (h : g.node? id = some n) : (⟨id, n⟩ : Member) ∈ g.members := by
  obtain ⟨m, hm, rfl⟩ := Option.map_eq_some_iff.1 h
  have hid : m.id = id := by simpa using List.find?_some hm
  subst hid
  exact List.mem_of_find?_eq_some hm

theorem find?_congr (h : g'.members = g.members) (name : String) (sel : Selector) :
    g'.find? name sel = g.find? name sel := by
  rw [find?, find?, named, named, h]

theorem add?_eq_some (h : g.add? n = some g') :
    g' = { g with members := g.members ++ [⟨n.key, n⟩] } := by
  unfold add? at h
  split at h
  · cases h
  · exact (Option.some.inj h).symm

namespace Settled

theorem empty : Settled {} := ⟨by simp, by simp, by simp⟩

theorem node?_eq (h : g.Settled) {m : Member} (hm : m ∈ g.members) :
    g.node? m.id = some m.node := by
  have hf : g.members.find? (·.id = m.id) = some m := by
    have hn := h.nodup
    generalize g.members = ms at hm hn
    induction ms with
    | nil => simp at hm
    | cons a ms ih =>
      rw [List.map_cons, List.nodup_cons] at hn
      rcases List.mem_cons.1 hm with rfl | hm
      · simp
      · have hne : a.id ≠ m.id := fun he => hn.1 (List.mem_map.2 ⟨m, hm, he.symm⟩)
        simp [hne, ih hm hn.2]
  simp [node?, hf]

theorem key_of_node? (h : g.Settled) (hn : g.node? id = some n) : n.key = id :=
  h.key_eq _ (mem_of_node? hn)

theorem keyOf_eq (h : g.Settled) (id : NodeKey) : g.keyOf id = id := by
  unfold keyOf
  cases hn : g.node? id with
  | none => rfl
  | some n => simp [h.key_of_node? hn]

theorem mem_dependencies_iff (h : g.Settled) {e : Edge} :
    e ∈ g.dependencies id ↔ e ∈ g.edges ∧ e.parent = id := by
  simp only [dependencies, List.mem_filter, decide_eq_true_eq, h.keyOf_eq]
  refine and_congr_right fun he => ?_
  rw [h.source_eq e he]

theorem add? (h : g.Settled) (ha : g.add? n = some g') : g'.Settled := by
  have hn := nodup_ids_add? ha h.nodup
  obtain rfl := add?_eq_some ha
  refine ⟨fun m hm => ?_, hn, h.source_eq⟩
  rcases List.mem_append.1 hm with hm | hm
  · exact h.key_eq m hm
  · rw [List.mem_singleton.1 hm]

theorem of_members_eq (h : g.Settled) (hm : g'.members = g.members)
    (he : ∀ e ∈ g'.edges, e.source = e.parent) : g'.Settled :=
  ⟨by rw [hm]; exact h.key_eq, by rw [hm]; exact h.nodup, he⟩

theorem addDependencies (h : g.Settled) (parent : NodeKey) (tag : Tag) (names : List String)
    (sel : Selector) : (g.addDependencies parent tag names sel).1.Settled := by
  refine h.of_members_eq rfl fun e he => ?_
  rcases List.mem_append.1 he with he | he
  · exact h.source_eq e he
  · obtain ⟨name, _, hf⟩ := List.mem_filterMap.1 he
    obtain ⟨m, _, rfl⟩ := Option.map_eq_some_iff.1 hf
    exact h.keyOf_eq parent

end Settled

theorem createVariant_frame (g : ModuleGraph) (id : NodeKey) (name : String) :
    (g.createVariant id name).1.members = g.members ∧
      (g.createVariant id name).1.edges = g.edges := by
  unfold createVariant
  split <;> exact ⟨rfl, rfl⟩

theorem createVariants_frame (g : ModuleGraph) (id : NodeKey) (names : List String) :
    (g.createVariants id names).1.members = g.members ∧
      (g.createVariants id names).1.edges = g.edges := by
  induction names generalizing g with
  | nil => exact ⟨rfl, rfl⟩
  | cons name rest ih =>
    have hv := g.createVariant_frame id name
    have hr := ih (g.createVariant id name).1
    exact ⟨hr.1.trans hv.1, hr.2.trans hv.2⟩

theorem createAll_frame (g : ModuleGraph) (l : List (NodeKey × List String)) :
    (g.createAll l).1.members = g.members ∧ (g.createAll l).1.edges = g.edges := by
  induction l generalizing g with
  | nil => exact ⟨rfl, rfl⟩
  | cons k rest ih =>
    have hv := g.createVariants_frame k.1 k.2
    have hr := ih (g.createVariants k.1 k.2).1
    exact ⟨hr.1.trans hv.1, hr.2.trans hv.2⟩

theorem propagate_frame (g : ModuleGraph) (bundles : List BundleModule) (table : InstallTable) :
    (g.propagate bundles table).1.members = g.members ∧
      (g.propagate bundles table).1.edges = g.edges :=
  g.createAll_frame _

end BundleWright.ModuleGraph
