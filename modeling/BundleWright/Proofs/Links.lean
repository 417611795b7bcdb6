import BundleWright.Proofs.Assembly
import BundleWright.Proofs.Requests
import Mathlib.Data.List.Nodup
/-!
Where edges lead. Main statements: an edge of an assembled graph is one that a bundle requested or
one that a module declared, and what a module declares to depend on is built for its own target, and
for its own image if both are native.
-/
namespace BundleWright

namespace TargetOs

def targets (os : TargetOs) : List Target :=
  os.common :: (Arch.all.map (os.target true) ++ Arch.all.map (os.target false))

theorem nodup_variantNames (os : TargetOs) : (os.targets.map Target.variantName).Nodup := by
  cases os <;> decide +kernel

theorem eq_of_variantName_eq {os : TargetOs} {t u : Target} (ht : t ∈ os.targets)
    (hu : u ∈ os.targets) (h : t.variantName = u.variantName) : t = u :=
  List.inj_on_of_nodup_map os.nodup_variantNames ht hu h

end TargetOs

theorem Arch.mem_all (a : Arch) : a ∈ all := by cases a <;> decide

namespace Settings

variable {s : Settings} {t : Target}

theorem common_mem_targets (s : Settings) : s.commonTarget ∈ s.targetOs.targets :=
  List.mem_cons_self

theorem mem_targets (h : t ∈ s.targetList) : t ∈ s.targetOs.targets := by
  refine List.mem_cons_of_mem _ ?_
  rcases List.mem_append.1 h with h | h
  · obtain ⟨a, _, rfl⟩ := List.mem_map.1 h
    exact List.mem_append_left _ (List.mem_map_of_mem a.mem_all)
  · obtain ⟨a, _, rfl⟩ := List.mem_map.1 h
    exact List.mem_append_right _ (List.mem_map_of_mem a.mem_all)

theorem common_not_mem_targetList (s : Settings) : s.commonTarget ∉ s.targetList := by
  intro h
  have harch : ∃ a : Arch, a.word = "common" := by
    rcases List.mem_append.1 h with h | h
    all_goals
      obtain ⟨a, _, ha⟩ := List.mem_map.1 h
      exact ⟨a, congrArg Target.arch ha⟩
  obtain ⟨a, ha⟩ := harch
  cases a <;> simp [Arch.word] at ha

end Settings

def Node.isNative (n : Node) : Bool :=
  match n.kind with
  | .library _ | .binary _ => true
  | _ => false

namespace Declaration.Declares

variable {d : Declaration} {known : List BundleDefaults} {s : Settings} {dir : Path} {n : Node}

theorem name_eq (h : Declares known s dir d n) : n.name = d.name := by
  cases h with
  | bundle hr =>
    obtain ⟨chosen, _, hb⟩ := exists_of_bind_eq_ok hr
    cases hb
    rfl
  | _ => rfl

theorem target_mem (h : Declares known s dir d n) : n.target ∈ s.targetOs.targets := by
  cases h with
  | library ht _ => exact s.mem_targets ht
  | binary ht _ => exact s.mem_targets ht
  | script ht => exact s.mem_targets ht
  | prebuilt ht => exact s.mem_targets ht
  | _ => exact s.common_mem_targets

theorem target_mem_of_native (h : Declares known s dir d n) (hn : n.isNative = true) :
    n.target ∈ s.targetList := by
  cases h with
  | library ht _ => exact ht
  | binary ht _ => exact ht
  | _ => cases hn

theorem targets_of_bundle (h : Declares known s dir d n) {b : BundleNode}
    (hk : n.kind = .bundle b) : b.targets = s.targetList := by
  cases h with
  | bundle _ =>
    cases hk
    rfl
  | _ => cases hk

theorem native_or_java_of_deps (h : Declares known s dir d n) (hd : n.deps ≠ []) :
    n.isNative = true ∨ (∃ j, n.kind = .java j) ∧ n.target = s.commonTarget := by
  cases h with
  | library _ _ => exact .inl rfl
  | binary _ _ => exact .inl rfl
  | java => exact .inr ⟨⟨_, rfl⟩, rfl⟩
  | _ => exact absurd rfl hd

/-- Only native code depends on native code: everything else that depends on anything is built for
the common target. -/
theorem isNative_of_needs (h : Declares known s dir d n) {known' : List BundleDefaults}
    {d' : Declaration} {c : Node} (h' : Declares known' s dir d' c) (hd : n.deps ≠ [])
    (ht : c.target = n.target) (hc : c.isNative = true) : n.isNative = true := by
  refine (h.native_or_java_of_deps hd).resolve_right fun ⟨_, hcommon⟩ => ?_
  have hmem := h'.target_mem_of_native hc
  rw [ht, hcommon] at hmem
  exact s.common_not_mem_targetList hmem

theorem eq_of_signing (h : Declares known s dir d n) {known' : List BundleDefaults} {n' : Node}
    (h' : Declares known' s dir d n')
    (hk : (∃ k, n.kind = .key k) ∨ ∃ c, n.kind = .certificate c) : n' = n := by
  cases h with
  | key =>
    cases h'
    rfl
  | certificate hp =>
    cases h' with
    | certificate hp' =>
      rw [hp, Option.some.injEq] at hp'
      rw [hp']
  | _ => simp [LibraryDecl.node, BinaryDecl.node, ScriptDecl.node, JavaDecl.node,
      PrebuiltDecl.node, BundleModule.toNode] at hk

end Declaration.Declares

namespace ModuleGraph

/-- A dependency that a module declares by itself, and the node that its edge leads to. -/
structure Linked (g : ModuleGraph) (e : Edge) (n c : Node) : Prop where
  parent : g.node? e.parent = some n
  child : g.node? e.child = some c
  name_mem : c.name ∈ n.deps
  agrees : ModuleGraph.agrees (ownSelector n) c = true

variable {g : ModuleGraph} {e : Edge} {n c : Node}

theorem Settled.exists_linked (hg : g.Settled) {m : Member} (hm : m ∈ g.members)
    (he : e ∈ g.linksOf m.node) : ∃ c, g.Linked e m.node c := by
  obtain ⟨name, hname, c, hc, rfl⟩ := mem_linksOf_iff.1 he
  obtain ⟨hc, hcn, hagrees⟩ := find?_name hc
  refine ⟨c.node, ?_, hg.node?_eq hc, ?_, hagrees⟩
  · simpa only [hg.key_eq m hm] using hg.node?_eq hm
  · rwa [show c.node.name = name from (congrArg NodeKey.name (hg.key_eq c hc)).trans hcn]

theorem agrees_iff {sel : Selector} :
    ModuleGraph.agrees sel n = true ↔
      ∀ w ∈ sel, ∀ v, n.variations.lookup w.1 = some v → v = w.2 := by
  simp [ModuleGraph.agrees, Option.all_eq_true]

end ModuleGraph

namespace Node

variable {n c : Node} {sel : Selector} {v : String}

theorem lookup_arch (n : Node) : n.variations.lookup "arch" = some n.target.variantName := by
  unfold variations
  split <;> rfl

theorem lookup_image (h : n.isNative = true) : n.variations.lookup "image" = some n.image := by
  unfold isNative at h
  unfold variations
  split at h <;> simp_all [List.lookup_cons]

theorem variantName_of_agrees (h : ModuleGraph.agrees sel n = true) (hw : ("arch", v) ∈ sel) :
    n.target.variantName = v :=
  ModuleGraph.agrees_iff.1 h _ hw _ n.lookup_arch

theorem image_of_agrees (h : ModuleGraph.agrees sel n = true) (hn : n.isNative = true)
    (hw : ("image", v) ∈ sel) : n.image = v :=
  ModuleGraph.agrees_iff.1 h _ hw _ (lookup_image hn)

end Node

namespace Workspace

variable {ds : List Declaration} {s₀ s : Settings} {dir : Path} {w w' : Workspace}

theorem Assembled.mem_bundleEdges_or_linked (hw : w.Sound) (hg : w.Assembled s w') {e : Edge}
    (he : e ∈ w'.graph.edges) :
    (∃ b ∈ w.bundles, e ∈ w.graph.bundleEdges b s) ∨ ∃ n c, w'.graph.Linked e n c := by
  rw [hg.edges] at he
  rcases List.mem_append.1 he with he | he
  · obtain ⟨m, hm, hlink⟩ := hw.links e he
    rw [← ModuleGraph.linksOf_congr hg.members] at hlink
    obtain ⟨c, hc⟩ := hg.settled.exists_linked (hg.members ▸ hm) hlink
    exact .inr ⟨m.node, c, hc⟩
  · exact .inl (List.mem_flatMap.1 he)

theorem Assembled.exists_linked (hw : w.Sound) (hg : w.Assembled s w') {e : Edge} {n : Node}
    (he : e ∈ w'.graph.edges) (hn : w'.graph.node? e.parent = some n) (hb : n.bundle? = none) :
    ∃ c, w'.graph.Linked e n c := by
  rcases hg.mem_bundleEdges_or_linked hw he with ⟨b, hmem, he⟩ | ⟨m, c, hlink⟩
  · have hnode := hw.bundles b hmem
    rw [(ModuleGraph.parent_of_mem_bundleEdges he).1, ModuleGraph.node?_congr hg.members, hnode]
      at hn
    cases hn
    cases hb
  · rw [hlink.parent] at hn
    cases hn
    exact ⟨c, hlink⟩

theorem Assembled.exists_declaration (hw : ofDeclarations ds s₀ dir = .ok w)
    (hg : w.Assembled s w') {id : NodeKey} {n : Node} (hn : w'.graph.node? id = some n) :
    ∃ d ∈ ds, ∃ known, d.Declares known s₀ dir n :=
  Workspace.exists_declaration hw (hg.members ▸ ModuleGraph.mem_of_node? hn)

/-- Names tell keys and certificates apart from everything else. -/
theorem named_eq_singleton (hs : w.Sound) (hw : ofDeclarations ds s₀ dir = .ok w) {m : Member}
    (hm : m ∈ w.graph.members)
    (hk : (∃ k, m.node.kind = .key k) ∨ ∃ c, m.node.kind = .certificate c) :
    w.graph.named m.id.name = [m] := by
  have hnames := (ofDeclarations_eq_ok hw).1
  have hname {x : Member} (hx : x ∈ w.graph.members) : x.node.name = x.id.name :=
    congrArg NodeKey.name (hs.settled.key_eq x hx)
  have hone {x : Member} (hx : x ∈ w.graph.members) (he : x.id.name = m.id.name) : x = m := by
    obtain ⟨d, hd, known, hdecl⟩ := Workspace.exists_declaration hw hm
    obtain ⟨d', hd', known', hdecl'⟩ := Workspace.exists_declaration hw hx
    have hdd : d' = d := by
      refine List.inj_on_of_nodup_map hnames hd' hd ?_
      rw [← hdecl.name_eq, ← hdecl'.name_eq, hname hm, hname hx, he]
    subst hdd
    have hnode : x.node = m.node := hdecl.eq_of_signing hdecl' hk
    have hid : x.id = m.id := by rw [← hs.settled.key_eq x hx, hnode, hs.settled.key_eq m hm]
    cases x
    cases m
    simp_all
  have hnodup : (w.graph.named m.id.name).Nodup :=
    (List.Nodup.of_map _ hs.settled.nodup).filter _
  refine List.perm_singleton.1 ((List.perm_ext_iff_of_nodup hnodup (by simp)).2 fun x => ?_)
  simp only [ModuleGraph.named, List.mem_filter, decide_eq_true_eq, List.mem_singleton]
  refine ⟨fun h => hone h.1 h.2, ?_⟩
  rintro rfl
  exact ⟨hm, rfl⟩

/-- What a module declares to depend on is built for the target of the module; a native module and
what it needs of native code are built for one image. -/
theorem alike_of_linked (hw : ofDeclarations ds s₀ dir = .ok w) {g : ModuleGraph}
    (hg : g.members = w.graph.members) {e : Edge} {n c : Node} (h : g.Linked e n c) :
    n.target = c.target ∧ (c.isNative = true → n.isNative = true ∧ n.image = c.image) := by
  have hdecl {id : NodeKey} {m : Node} (hm : g.node? id = some m) :=
    Workspace.exists_declaration hw (hg ▸ ModuleGraph.mem_of_node? hm)
  obtain ⟨d, _, known, hd⟩ := hdecl h.parent
  obtain ⟨d', _, known', hd'⟩ := hdecl h.child
  have harch : ("arch", n.target.variantName) ∈ ModuleGraph.ownSelector n := by
    unfold ModuleGraph.ownSelector
    split <;> simp
  have ht : n.target = c.target :=
    TargetOs.eq_of_variantName_eq hd.target_mem hd'.target_mem
      (Node.variantName_of_agrees h.agrees harch).symm
  refine ⟨ht, fun hc => ?_⟩
  have hn : n.isNative = true :=
    hd.isNative_of_needs hd' (List.ne_nil_of_mem h.name_mem) ht.symm hc
  have himage : ("image", n.image) ∈ ModuleGraph.ownSelector n := by
    unfold Node.isNative at hn
    unfold ModuleGraph.ownSelector
    split <;> simp_all
  exact ⟨hn, (Node.image_of_agrees h.agrees hc himage).symm⟩

end Workspace

end BundleWright
