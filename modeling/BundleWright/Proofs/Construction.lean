import BundleWright.Proofs.Alike
import BundleWright.Proofs.Graph.History
/-!
The graph of a list of declarations, exactly. Main statement: it has one node for each target and
image that a declaration is built for, one edge for each dependency that a module declares, and
nothing else; and a lookup that says which variant it wants has one node to find at most.
-/
namespace BundleWright

section Lists

variable {α β : Type} {l l' : List α}

theorem forall₂_filterMap {f : α → Option β} (h : ∀ a ∈ l, (f a).isSome = true) :
    List.Forall₂ (fun a b => f a = some b) l (l.filterMap f) := by
  induction l with
  | nil => exact .nil
  | cons a l ih =>
    obtain ⟨b, hb⟩ := Option.isSome_iff_exists.1 (h a (by simp))
    rw [List.filterMap_cons, hb]
    exact .cons hb (ih fun x hx => h x (by simp [hx]))

theorem find?_eq_of_perm {p : α → Bool} (hp : l'.Perm l)
    (hone : ∀ a ∈ l, ∀ b ∈ l, p a = true → p b = true → a = b) : l'.find? p = l.find? p := by
  cases h : l.find? p with
  | none =>
    rw [List.find?_eq_none] at h ⊢
    exact fun a ha => h a (hp.mem_iff.1 ha)
  | some a =>
    have ha := List.mem_of_find?_eq_some h
    have hpa := List.find?_some h
    obtain ⟨b, hb⟩ := Option.isSome_iff_exists.1
      (List.find?_isSome.2 ⟨a, hp.mem_iff.2 ha, hpa⟩)
    rw [hb, hone b (hp.mem_iff.1 (List.mem_of_find?_eq_some hb)) a ha (List.find?_some hb) hpa]

end Lists

namespace Node

/-- Whether a node is built like one that depends on it: for the same architecture, and for the same
image if the dependent is native and the node varies by image. -/
def BuiltAlike (n c : Node) : Prop :=
  c.target.variantName = n.target.variantName ∧
    (n.isNative = true → ∀ image, c.variations.lookup "image" = some image → image = n.image)

theorem matches_ownSelector_iff {n c : Node} (hn : n.isNative = true ∨ ∃ j, n.kind = .java j) :
    c.Matches (ModuleGraph.ownSelector n) ↔ n.BuiltAlike c := by
  have harch : (∀ own, c.variations.lookup "arch" = some own → own = n.target.variantName) ↔
      c.target.variantName = n.target.variantName := by
    simp [c.lookup_arch]
  unfold Matches BuiltAlike ModuleGraph.ownSelector
  rcases hn with hn | ⟨j, hj⟩
  · have himage : n.isNative = true := hn
    unfold isNative at hn
    split
    · next hk => simp [hk] at hn
    · simp [himage, harch, or_imp, forall_and]
  · have himage : n.isNative = false := by simp [isNative, hj]
    simp [hj, himage, harch]

end Node

namespace Declaration

def HasImage (vendorAvailable : Option Bool) (image : String) : Prop :=
  image = coreImage ∨ image = vendorImage ∧ vendorAvailable = some true

def BuiltFor (s : Settings) (t : Target) (image : String) : Declaration → Prop
  | .library d => t ∈ s.targetList ∧ HasImage d.vendorAvailable image
  | .binary d => t ∈ s.targetList ∧ HasImage d.vendorAvailable image
  | .script _ | .prebuilt _ => t ∈ s.targetList ∧ image = coreImage
  | .java _ | .key _ | .certificate _ | .bundle _ => t = s.commonTarget ∧ image = coreImage
  | .defaults _ => False

def dependsOn : Declaration → List String
  | .library d => d.sharedLibs
  | .binary d => d.sharedLibs
  | .java d => d.libs
  | _ => []

variable {d : Declaration} {known : List BundleDefaults} {s : Settings} {dir : Path} {n m : Node}
  {t : Target} {image : String}

theorem mem_imagesFor_iff {va : Option Bool} : image ∈ imagesFor va ↔ HasImage va image := by
  unfold imagesFor HasImage
  split
  · next h => simp [h]
  · next h => simp [h]

theorem mem_forVariants {va : Option Bool} {f : Target → String → Node} (ht : t ∈ s.targetList)
    (hi : HasImage va image) : f t image ∈ forVariants s va f :=
  List.mem_flatMap.2 ⟨t, ht, List.mem_map_of_mem (mem_imagesFor_iff.2 hi)⟩

namespace Declares

theorem builtFor (h : Declares known s dir d n) : d.BuiltFor s n.target n.image := by
  cases h with
  | library ht hi => exact ⟨ht, mem_imagesFor_iff.1 hi⟩
  | binary ht hi => exact ⟨ht, mem_imagesFor_iff.1 hi⟩
  | script ht => exact ⟨ht, rfl⟩
  | prebuilt ht => exact ⟨ht, rfl⟩
  | _ => exact ⟨rfl, rfl⟩

theorem deps_eq (h : Declares known s dir d n) : n.deps = d.dependsOn := by
  cases h <;> rfl

/-- The nodes of one declaration are all native or none. -/
theorem isNative_eq (h : Declares known s dir d n) (h' : Declares known s dir d m) :
    n.isNative = m.isNative := by
  cases h <;> cases h' <;> rfl

theorem image_eq_core (h : Declares known s dir d n) (hn : n.isNative = false) :
    n.image = coreImage := by
  cases h with
  | library _ _ => cases hn
  | binary _ _ => cases hn
  | _ => rfl

end Declares

theorem exists_node_of_builtFor {p : List BundleModule × List Node}
    (hp : d.nodes known s dir = .ok p) (hb : d.BuiltFor s t image) :
    ∃ n ∈ p.2, n.target = t ∧ n.image = image := by
  cases d with
  | library d =>
    cases hp
    exact ⟨_, mem_forVariants hb.1 hb.2, rfl, rfl⟩
  | binary d =>
    cases hp
    exact ⟨_, mem_forVariants hb.1 hb.2, rfl, rfl⟩
  | script d =>
    cases hp
    obtain ⟨ht, rfl⟩ := hb
    exact ⟨_, List.mem_map_of_mem ht, rfl, rfl⟩
  | prebuilt d =>
    cases hp
    obtain ⟨ht, rfl⟩ := hb
    exact ⟨_, List.mem_map_of_mem ht, rfl, rfl⟩
  | java d =>
    cases hp
    obtain ⟨rfl, rfl⟩ := hb
    exact ⟨_, .head _, rfl, rfl⟩
  | key d =>
    cases hp
    obtain ⟨rfl, rfl⟩ := hb
    exact ⟨_, .head _, rfl, rfl⟩
  | certificate d =>
    obtain ⟨m, hm, rfl⟩ := exists_of_map_eq_ok hp
    obtain ⟨rfl, rfl⟩ := hb
    unfold CertificateDecl.node at hm
    split at hm
    · cases hm
      exact ⟨_, .head _, rfl, rfl⟩
    · cases hm
  | bundle d =>
    obtain ⟨b, hr, rfl⟩ := exists_of_map_eq_ok hp
    obtain ⟨rfl, rfl⟩ := hb
    exact ⟨_, .head _, rfl, rfl⟩
  | defaults d => exact absurd hb id

end Declaration

/-- A lookup that says which architecture it wants, and which image if native code has the name. -/
structure ModuleGraph.Pinned (g : ModuleGraph) (name : String) (sel : Selector) : Prop where
  arch : ∃ v, ("arch", v) ∈ sel
  image : ∀ n ∈ g.nodes, n.name = name → n.isNative = true → ∃ v, ("image", v) ∈ sel

namespace Workspace

open Declaration ModuleGraph

variable {ds : List Declaration} {s : Settings} {dir : Path} {w : Workspace} {n m : Node}
  {name : String} {sel : Selector}

/-- A workspace that has what the declarations say, and nothing else. -/
structure Exact (ds : List Declaration) (s : Settings) (dir : Path) (w : Workspace) : Prop where
  nodup_keys : (w.graph.nodes.map Node.key).Nodup
  built : ∀ d ∈ ds, ∀ t image, d.BuiltFor s t image →
    ∃! n, n ∈ w.graph.nodes ∧ n.name = d.name ∧ n.target = t ∧ n.image = image
  declared : ∀ n ∈ w.graph.nodes, ∃ d ∈ ds, d.Declares (defaultsAmong ds) s dir n ∧
    n.name = d.name ∧ d.BuiltFor s n.target n.image
  /-- The edges of a node lead to what it declares to depend on, in that order. -/
  linked : ∀ d ∈ ds, ∀ n ∈ w.graph.nodes, n.name = d.name →
    List.Forall₂ (fun name e => e.parent = n.key ∧ e.tag = .moduleDep ∧
        (∃! c, c ∈ w.graph.nodes ∧ c.name = name ∧ n.BuiltAlike c) ∧
        ∀ c ∈ w.graph.nodes, c.name = name → n.BuiltAlike c → e.child = c.key)
      d.dependsOn (w.graph.dependencies n.key)
  edges : w.graph.edges = w.graph.nodes.flatMap fun n => w.graph.dependencies n.key
  one_match : ∀ name sel, w.graph.Pinned name sel → ∀ n ∈ w.graph.nodes, ∀ m ∈ w.graph.nodes,
    n.name = name → m.name = name → n.Matches sel → m.Matches sel → n = m
  any_order : ∀ name sel, w.graph.Pinned name sel → ∀ members : List Member,
    members.Perm w.graph.members →
      ({ w.graph with members := members } : ModuleGraph).find? name sel = w.graph.find? name sel

theorem settled_of_ofDeclarations (hw : ofDeclarations ds s dir = .ok w) : w.graph.Settled := by
  obtain ⟨_, w₀, graph, hw₀, hg, rfl⟩ := ofDeclarations_eq_ok hw
  have hreg := (Registered.start ds s dir).register (fun d hd => hd) hw₀
  exact (ModuleGraph.linkAll_spec hreg.settled hg).1

theorem nodes_of_ofDeclarations (hw : ofDeclarations ds s dir = .ok w) :
    w.graph.nodes = builtNodes (defaultsAmong ds) s dir ds := by
  obtain ⟨_, _, _, _, rfl⟩ := ofDeclarations_eq_ok_iff.1 hw
  exact ModuleGraph.nodes_ofNodes _

theorem nodup_keys_of_ofDeclarations (hw : ofDeclarations ds s dir = .ok w) :
    (w.graph.nodes.map Node.key).Nodup := by
  rw [nodes_of_ofDeclarations hw]
  exact (ofDeclarations_eq_ok_iff.1 hw).2.2.1

theorem eq_of_key_eq (hw : ofDeclarations ds s dir = .ok w) (hn : n ∈ w.graph.nodes)
    (hm : m ∈ w.graph.nodes) (h : n.key = m.key) : n = m :=
  List.inj_on_of_nodup_map (nodup_keys_of_ofDeclarations hw) hn hm h

theorem exists_declares (hw : ofDeclarations ds s dir = .ok w) (hn : n ∈ w.graph.nodes) :
    ∃ d ∈ ds, d.Declares (defaultsAmong ds) s dir n := by
  rw [nodes_of_ofDeclarations hw] at hn
  obtain ⟨d, hd, hn⟩ := List.mem_flatMap.1 hn
  obtain ⟨p, hp⟩ := (ofDeclarations_eq_ok_iff.1 hw).2.1 d hd
  rw [parts_eq hp] at hn
  exact ⟨d, hd, declares_of_mem_nodes hp hn⟩

theorem declares_of_name_eq (hw : ofDeclarations ds s dir = .ok w) {d : Declaration} (hd : d ∈ ds)
    (hn : n ∈ w.graph.nodes) (h : n.name = d.name) :
    d.Declares (defaultsAmong ds) s dir n := by
  obtain ⟨d', hd', hdecl⟩ := exists_declares hw hn
  have hnames := (ofDeclarations_eq_ok_iff.1 hw).1
  have hdd : d' = d :=
    List.inj_on_of_nodup_map hnames hd' hd (hdecl.name_eq.symm.trans h)
  exact hdd ▸ hdecl

theorem eq_of_build_eq (hw : ofDeclarations ds s dir = .ok w) (hn : n ∈ w.graph.nodes)
    (hm : m ∈ w.graph.nodes) (hname : n.name = m.name)
    (htarget : n.target.variantName = m.target.variantName) (himage : n.image = m.image) :
    n = m := by
  refine eq_of_key_eq hw hn hm ?_
  simp only [Node.key, Node.variantId, hname, htarget, himage]

/-- A pinned lookup has one node to find at most: its name says whether the image counts. -/
theorem eq_of_matches (hw : ofDeclarations ds s dir = .ok w) (hp : w.graph.Pinned name sel)
    (hn : n ∈ w.graph.nodes) (hm : m ∈ w.graph.nodes) (hnn : n.name = name) (hmn : m.name = name)
    (hns : n.Matches sel) (hms : m.Matches sel) : n = m := by
  obtain ⟨v, hv⟩ := hp.arch
  obtain ⟨d, hd, hdn⟩ := exists_declares hw hn
  have hdm : d.Declares (defaultsAmong ds) s dir m :=
    declares_of_name_eq hw hd hm (by rw [hmn, ← hnn, hdn.name_eq])
  have hnative := hdn.isNative_eq hdm
  refine eq_of_build_eq hw hn hm (hnn.trans hmn.symm) ?_ ?_
  · rw [hns _ _ hv _ n.lookup_arch, hms _ _ hv _ m.lookup_arch]
  · by_cases hc : n.isNative = true
    · obtain ⟨i, hi⟩ := hp.image n hn hnn hc
      rw [hns _ _ hi _ (Node.lookup_image hc), hms _ _ hi _ (Node.lookup_image (hnative ▸ hc))]
    · have hc : n.isNative = false := by simpa using hc
      rw [hdn.image_eq_core hc, hdm.image_eq_core (hnative ▸ hc)]

theorem find?_of_perm (hw : ofDeclarations ds s dir = .ok w) (hp : w.graph.Pinned name sel)
    {members : List Member} (hperm : members.Perm w.graph.members) :
    ({ w.graph with members := members } : ModuleGraph).find? name sel =
      w.graph.find? name sel := by
  have hs := settled_of_ofDeclarations hw
  refine find?_eq_of_perm (hperm.filter _) fun a ha b hb hsa hsb => ?_
  obtain ⟨ha, han⟩ : a ∈ w.graph.members ∧ a.id.name = name := by
    simpa [named] using ha
  obtain ⟨hb, hbn⟩ : b ∈ w.graph.members ∧ b.id.name = name := by
    simpa [named] using hb
  have hname {x : Member} (hx : x ∈ w.graph.members) : x.node.name = x.id.name :=
    congrArg NodeKey.name (hs.key_eq x hx)
  have hnode : a.node = b.node :=
    eq_of_matches hw hp (List.mem_map_of_mem ha) (List.mem_map_of_mem hb)
      ((hname ha).trans han) ((hname hb).trans hbn) (Node.agrees_iff_matches.1 hsa)
      (Node.agrees_iff_matches.1 hsb)
  have hid : a.id = b.id := by rw [← hs.key_eq a ha, hnode, hs.key_eq b hb]
  cases a
  cases b
  cases hnode
  cases hid
  rfl

/-- Of one name there is one node at most that is built like a native or a java module: native code
is not built for the target of java modules. -/
theorem eq_of_builtAlike (hw : ofDeclarations ds s dir = .ok w) {c c' : Node}
    (hn : n ∈ w.graph.nodes) (hdeps : n.deps ≠ []) (hc : c ∈ w.graph.nodes)
    (hc' : c' ∈ w.graph.nodes) (hname : c.name = c'.name) (h : n.BuiltAlike c)
    (h' : n.BuiltAlike c') : c = c' := by
  obtain ⟨dn, _, hdn⟩ := exists_declares hw hn
  obtain ⟨d, hd, hdc⟩ := exists_declares hw hc
  have hdc' : d.Declares (defaultsAmong ds) s dir c' :=
    declares_of_name_eq hw hd hc' (by rw [← hname, hdc.name_eq])
  have hnative := hdc.isNative_eq hdc'
  refine eq_of_build_eq hw hc hc' hname (h.1.trans h'.1.symm) ?_
  by_cases hcn : c.isNative = true
  · have hnn : n.isNative = true :=
      hdn.isNative_of_needs hdc hdeps
        (TargetOs.eq_of_variantName_eq hdc.target_mem hdn.target_mem h.1) hcn
    rw [h.2 hnn _ (Node.lookup_image hcn), h'.2 hnn _ (Node.lookup_image (hnative ▸ hcn))]
  · have hcn : c.isNative = false := by simpa using hcn
    rw [hdc.image_eq_core hcn, hdc'.image_eq_core (hnative ▸ hcn)]

theorem dependencies_of_ofDeclarations (hw : ofDeclarations ds s dir = .ok w)
    (hn : n ∈ w.graph.nodes) : w.graph.dependencies n.key = w.graph.linksOf n := by
  have hs := settled_of_ofDeclarations hw
  obtain ⟨m, hm, rfl⟩ := List.mem_map.1 hn
  have hone : (w.graph.named m.id.name).filter (·.id = m.id) = [m] := by
    rw [named, List.filter_filter, ← filter_key_eq_singleton hs.nodup hm]
    refine List.filter_congr fun x _ => ?_
    by_cases h : x.id = m.id <;> simp [h]
  rw [hs.key_eq m hm, hs.dependencies_eq_named (edges_of_ofDeclarations hw), hone]
  simp

theorem finds_of_ofDeclarations (hw : ofDeclarations ds s dir = .ok w)
    (hn : n ∈ w.graph.nodes) : w.graph.Finds n := by
  rw [nodes_of_ofDeclarations hw] at hn
  obtain ⟨_, _, _, hfinds, rfl⟩ := ofDeclarations_eq_ok_iff.1 hw
  exact hfinds n hn

theorem forall₂_dependencies (hw : ofDeclarations ds s dir = .ok w) (hn : n ∈ w.graph.nodes) :
    List.Forall₂ (fun name e => e.parent = n.key ∧ e.tag = .moduleDep ∧
        (∃! c, c ∈ w.graph.nodes ∧ c.name = name ∧ n.BuiltAlike c) ∧
        ∀ c ∈ w.graph.nodes, c.name = name → n.BuiltAlike c → e.child = c.key)
      n.deps (w.graph.dependencies n.key) := by
  have hs := settled_of_ofDeclarations hw
  rw [dependencies_of_ofDeclarations hw hn]
  by_cases hdeps : n.deps = []
  · rw [linksOf, hdeps]
    exact .nil
  have hkind : n.isNative = true ∨ ∃ j, n.kind = .java j := by
    obtain ⟨d, _, hd⟩ := exists_declares hw hn
    exact (hd.native_or_java_of_deps hdeps).imp_right And.left
  have hsome : ∀ name ∈ n.deps, ((w.graph.find? name (ownSelector n)).map fun c =>
      (⟨n.key, c.id, .moduleDep, w.graph.keyOf n.key⟩ : Edge)).isSome = true := by
    simpa [Finds] using finds_of_ofDeclarations hw hn
  refine (forall₂_filterMap hsome).imp fun name e he => ?_
  obtain ⟨m, hm, rfl⟩ := Option.map_eq_some_iff.1 he
  obtain ⟨hm, hname, hagrees⟩ := find?_name hm
  have hmem : m.node ∈ w.graph.nodes := List.mem_map_of_mem hm
  have hmname : m.node.name = name := (congrArg NodeKey.name (hs.key_eq m hm)).trans hname
  have halike : n.BuiltAlike m.node :=
    (Node.matches_ownSelector_iff hkind).1 (Node.agrees_iff_matches.1 hagrees)
  have hone {c : Node} (hc : c ∈ w.graph.nodes) (hcn : c.name = name) (h : n.BuiltAlike c) :
      c = m.node := eq_of_builtAlike hw hn hdeps hc hmem (hcn.trans hmname.symm) h halike
  refine ⟨rfl, rfl, ⟨m.node, ⟨hmem, hmname, halike⟩, fun c hc => hone hc.1 hc.2.1 hc.2.2⟩, ?_⟩
  intro c hc hcn h
  rw [hone hc hcn h, hs.key_eq m hm]

theorem exact_of_ofDeclarations (hw : ofDeclarations ds s dir = .ok w) : Exact ds s dir w where
  nodup_keys := nodup_keys_of_ofDeclarations hw
  built := by
    intro d hd t image hb
    obtain ⟨p, hp⟩ := (ofDeclarations_eq_ok_iff.1 hw).2.1 d hd
    obtain ⟨n, hn, rfl, rfl⟩ := exists_node_of_builtFor hp hb
    have hname : n.name = d.name := (declares_of_mem_nodes hp hn).name_eq
    have hmem : n ∈ w.graph.nodes := by
      rw [nodes_of_ofDeclarations hw]
      exact List.mem_flatMap.2 ⟨d, hd, by rwa [parts_eq hp]⟩
    refine ⟨n, ⟨hmem, hname, rfl, rfl⟩, fun m hm => ?_⟩
    exact eq_of_build_eq hw hm.1 hmem (hm.2.1.trans hname.symm) (by rw [hm.2.2.1]) hm.2.2.2
  declared := by
    intro n hn
    obtain ⟨d, hd, hdecl⟩ := exists_declares hw hn
    exact ⟨d, hd, hdecl, hdecl.name_eq, hdecl.builtFor⟩
  linked := by
    intro d hd n hn hname
    rw [← (declares_of_name_eq hw hd hn hname).deps_eq]
    exact forall₂_dependencies hw hn
  edges := by
    rw [edges_of_ofDeclarations hw]
    exact List.flatMap_congr fun n hn => (dependencies_of_ofDeclarations hw hn).symm
  one_match := fun _ _ hp _ hn _ hm hnn hmn => eq_of_matches hw hp hn hm hnn hmn
  any_order := fun _ _ hp _ hperm => find?_of_perm hw hp hperm

end Workspace

def twoImages : List Declaration := [
  .library ⟨.library, "a", ["c", "run"], none, none, none, some true, none⟩,
  .library ⟨.library, "c", [], none, none, none, some true, none⟩,
  .script { name := "run", src := "run.sh" }]

theorem Workspace.exact_of_ofDeclarations_twoImages :
    ∃ w, ofDeclarations twoImages layeredSettings .here = .ok w ∧
      Exact twoImages layeredSettings .here w ∧
      (w.graph.nodes.filter (·.name = "run")).map Node.key =
        [⟨"run", "android_arm64"⟩, ⟨"run", "android_arm"⟩] ∧
      (w.graph.dependencies ⟨"a", "android_arm_vendor"⟩).map Edge.child =
        [⟨"c", "android_arm_vendor"⟩, ⟨"run", "android_arm"⟩] :=
  ⟨_, rfl, exact_of_ofDeclarations rfl, by decide +kernel, by decide +kernel⟩

end BundleWright
