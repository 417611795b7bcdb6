import BundleWright.Proofs.Links
/-!
Which declarations make a workspace, and which one it is. Main statements: a workspace is made just
when the declarations have names of their own, every one of them can be built, the nodes have keys
of their own and what they depend on is found; and what stands in it under a name hangs only on the
declarations of that name and on what the names of defaults stand for.
-/
namespace BundleWright

theorem firstRepeated?_eq_none_iff {names met : List String} :
    firstRepeated? names met = none ↔ names.Nodup ∧ ∀ n ∈ names, n ∉ met := by
  refine ⟨nodup_of_firstRepeated?_eq_none, ?_⟩
  induction names generalizing met with
  | nil => simp [firstRepeated?]
  | cons n rest ih =>
    rintro ⟨hn, hmet⟩
    rw [List.nodup_cons] at hn
    have hnew : n ∉ met := hmet n (by simp)
    rw [firstRepeated?, if_neg (by simpa using hnew)]
    refine ih ⟨hn.2, fun m hm => ?_⟩
    rw [List.mem_cons, not_or]
    exact ⟨fun he => hn.1 (he ▸ hm), hmet m (by simp [hm])⟩

namespace ModuleGraph

variable {g g' : ModuleGraph} {n : Node} {nodes : List Node} {name : String}

def ofNodes (nodes : List Node) : ModuleGraph := { members := nodes.map fun n => ⟨n.key, n⟩ }

theorem nodes_ofNodes (nodes : List Node) : (ofNodes nodes).nodes = nodes := by
  simp [ofNodes, ModuleGraph.nodes, Function.comp_def]

theorem named_ofNodes :
    (ofNodes nodes).named name = (nodes.filter (·.name = name)).map fun n => ⟨n.key, n⟩ := by
  rw [named, ofNodes, List.filter_map]
  rfl

theorem add?_eq_some_iff : g.add? n = some g' ↔ n.key ∉ g.members.map Member.id ∧
    g' = { g with members := g.members ++ [⟨n.key, n⟩] } := by
  unfold add? node?
  cases hf : g.members.find? (·.id = n.key) with
  | none =>
    have hnew : n.key ∉ g.members.map Member.id := by
      rw [List.mem_map]
      rintro ⟨m, hm, he⟩
      simpa [he] using List.find?_eq_none.1 hf m hm
    simp [hnew, eq_comm]
  | some m =>
    have hid : m.id = n.key := by simpa using List.find?_some hf
    have htaken : n.key ∈ g.members.map Member.id :=
      List.mem_map.2 ⟨m, List.mem_of_find?_eq_some hf, hid⟩
    simp [htaken]

theorem addAll_eq_ok_iff (hg : (g.members.map Member.id).Nodup) :
    g.addAll nodes = .ok g' ↔ (g.members.map Member.id ++ nodes.map Node.key).Nodup ∧
      g' = { g with members := g.members ++ nodes.map fun n => ⟨n.key, n⟩ } := by
  induction nodes generalizing g with
  | nil => simp [addAll, hg, eq_comm]
  | cons n rest ih =>
    unfold addAll
    split
    · next g₁ hadd =>
      have hnew := nodup_ids_add? hadd hg
      obtain ⟨hn, rfl⟩ := add?_eq_some_iff.1 hadd
      rw [ih hnew]
      simp
    · next hadd =>
      have htaken : n.key ∈ g.members.map Member.id := by
        by_contra hn
        exact absurd (hadd.symm.trans (add?_eq_some_iff.2 ⟨hn, rfl⟩)) (by simp)
      have hrep : ¬(g.members.map Member.id ++ (n :: rest).map Node.key).Nodup := by
        intro h
        exact (List.nodup_append.1 h).2.2 _ htaken _ (by simp) rfl
      simp only [hrep, false_and, reduceCtorEq]

theorem addAll_append (l r : List Node) :
    g.addAll (l ++ r) = g.addAll l >>= fun g => g.addAll r := by
  induction l generalizing g with
  | nil => rfl
  | cons n l ih =>
    simp only [List.cons_append, addAll]
    split
    · exact ih
    · rfl

def Finds (g : ModuleGraph) (n : Node) : Prop :=
  ∀ name ∈ n.deps, (g.find? name (ownSelector n)).isSome = true

theorem addDependencies_own (g : ModuleGraph) (n : Node) :
    g.addDependencies n.key .moduleDep n.deps (ownSelector n) = (g.withEdges (g.linksOf n),
      n.deps.filter fun name => (g.find? name (ownSelector n)).isNone) := by
  simp only [addDependencies, Option.isNone_map]
  rfl

theorem finds_congr (h : g'.members = g.members) : g'.Finds n ↔ g.Finds n := by
  simp only [Finds, find?_congr h]

theorem linkAll_eq_ok_iff :
    g.linkAll nodes = .ok g' ↔ (∀ n ∈ nodes, g.Finds n) ∧
      g' = g.withEdges (nodes.flatMap g.linksOf) := by
  induction nodes generalizing g with
  | nil => simp [linkAll, withEdges, eq_comm]
  | cons n rest ih =>
    have hlinks : (g.withEdges (g.linksOf n)).linksOf = g.linksOf := linksOf_congr rfl
    have hfinds (m : Node) : (g.withEdges (g.linksOf n)).Finds m ↔ g.Finds m := finds_congr rfl
    rw [linkAll, addDependencies_own]
    split
    · next g₁ hadd =>
      obtain ⟨rfl, hnone⟩ := Prod.mk.inj hadd
      have hn : g.Finds n := by
        simpa [Finds, List.filter_eq_nil_iff, Option.isSome_iff_ne_none] using hnone
      simp only [ih, hlinks, hfinds, List.forall_mem_cons, hn, true_and]
      simp [withEdges]
    · next missing hne hadd =>
      have hn : ¬g.Finds n := fun hn => by
        refine hne ?_
        rw [← (Prod.mk.inj hadd).2, List.filter_eq_nil_iff]
        intro name hname
        simpa using Option.isSome_iff_ne_none.1 (hn name hname)
      simp [hn]

end ModuleGraph

namespace Declaration

variable (known : List BundleDefaults) (s : Settings) (dir : Path)

def parts (d : Declaration) : List BundleModule × List Node :=
  (d.nodes known s dir).toOption.getD ([], [])

def builtNodes (ds : List Declaration) : List Node := ds.flatMap fun d => (d.parts known s dir).2

def builtBundles (ds : List Declaration) : List BundleModule :=
  ds.flatMap fun d => (d.parts known s dir).1

variable {known s dir} {d : Declaration} {ds : List Declaration} {name : String}

theorem parts_eq {p : List BundleModule × List Node} (h : d.nodes known s dir = .ok p) :
    d.parts known s dir = p := by
  rw [parts, h]
  rfl

theorem parts_of_error {e : WorkspaceError} (h : d.nodes known s dir = .error e) :
    d.parts known s dir = ([], []) := by
  rw [parts, h]
  rfl

theorem name_of_mem_parts :
    (∀ n ∈ (d.parts known s dir).2, n.name = d.name) ∧
      ∀ b ∈ (d.parts known s dir).1, b.name = d.name := by
  cases hp : d.nodes known s dir with
  | error e => simp [parts_of_error hp]
  | ok p =>
    rw [parts_eq hp]
    refine ⟨fun n hn => (declares_of_mem_nodes hp hn).name_eq, fun b hb => ?_⟩
    rcases bundles_of_nodes hp with h | ⟨c, h, hname, _⟩
    · simp [h] at hb
    · rw [h, List.mem_singleton] at hb
      rw [hb, hname]

theorem filter_name_eq {α : Type} {l : List α} {f : α → String} (h : ∀ a ∈ l, f a = d.name) :
    l.filter (f · = name) = if d.name = name then l else [] := by
  split
  · next he => simpa [List.filter_eq_self] using fun a ha => (h a ha).trans he
  · next hne => simpa [List.filter_eq_nil_iff] using fun a ha he => hne ((h a ha).symm.trans he)

theorem filter_builtNodes :
    (builtNodes known s dir ds).filter (·.name = name) =
      builtNodes known s dir (ds.filter (·.name = name)) :=
  filter_flatMap_eq fun d _ => by simpa using filter_name_eq name_of_mem_parts.1

theorem filter_builtBundles :
    (builtBundles known s dir ds).filter (·.name = name) =
      builtBundles known s dir (ds.filter (·.name = name)) :=
  filter_flatMap_eq fun d _ => by simpa using filter_name_eq name_of_mem_parts.2

end Declaration

namespace Workspace

open Declaration

variable {known : List BundleDefaults} {s : Settings} {dir : Path} {w w' : Workspace}
  {ds ds' : List Declaration} {name : String}

theorem register_eq_ok_iff :
    register known s dir w ds = .ok w' ↔ (∀ d ∈ ds, ∃ p, d.nodes known s dir = .ok p) ∧
      w.graph.addAll (builtNodes known s dir ds) = .ok w'.graph ∧
      w'.bundles = w.bundles ++ builtBundles known s dir ds ∧ w'.targets = w.targets := by
  induction ds generalizing w with
  | nil =>
    cases w
    cases w'
    simp [register, builtNodes, builtBundles, ModuleGraph.addAll, eq_comm]
  | cons d ds ih =>
    cases hp : d.nodes known s dir with
    | error e => simp [register, hp, bind, Except.bind]
    | ok p =>
      have hcons : builtNodes known s dir (d :: ds) = p.2 ++ builtNodes known s dir ds := by
        rw [builtNodes, List.flatMap_cons, parts_eq hp]
        rfl
      have hcons' : builtBundles known s dir (d :: ds) = p.1 ++ builtBundles known s dir ds := by
        rw [builtBundles, List.flatMap_cons, parts_eq hp]
        rfl
      rw [hcons, hcons', ModuleGraph.addAll_append]
      cases hg : w.graph.addAll p.2 with
      | error e => simp [register, hp, hg, bind, Except.bind]
      | ok g =>
        have hstep : register known s dir w (d :: ds) =
            register known s dir { w with graph := g, bundles := w.bundles ++ p.1 } ds := by
          simp [register, hp, hg, bind, Except.bind]
        rw [hstep, ih, List.forall_mem_cons, List.append_assoc]
        simp only [hp, Except.ok.injEq, exists_eq', true_and]
        rfl

def built (known : List BundleDefaults) (s : Settings) (dir : Path) (ds : List Declaration) :
    Workspace where
  graph :=
    let g := ModuleGraph.ofNodes (builtNodes known s dir ds)
    g.withEdges ((builtNodes known s dir ds).flatMap g.linksOf)
  bundles := builtBundles known s dir ds
  targets := s.targetList

theorem ofDeclarations_eq_ok_iff :
    ofDeclarations ds s dir = .ok w ↔ (ds.map Declaration.name).Nodup ∧
      (∀ d ∈ ds, ∃ p, d.nodes (defaultsAmong ds) s dir = .ok p) ∧
      ((builtNodes (defaultsAmong ds) s dir ds).map Node.key).Nodup ∧
      (∀ n ∈ builtNodes (defaultsAmong ds) s dir ds,
        (ModuleGraph.ofNodes (builtNodes (defaultsAmong ds) s dir ds)).Finds n) ∧
      w = built (defaultsAmong ds) s dir ds := by
  generalize hknown : defaultsAmong ds = known
  constructor
  -- registering starts from nothing, so the keys of the nodes only have to differ from each other
  · intro h
    obtain ⟨hnames, w₀, graph, hreg, hlink, rfl⟩ := ofDeclarations_eq_ok h
    rw [hknown] at hreg
    obtain ⟨hparts, hadd, hbundles, htargets⟩ := register_eq_ok_iff.1 hreg
    obtain ⟨hkeys, hgraph⟩ := (ModuleGraph.addAll_eq_ok_iff (by simp)).1 hadd
    have hw₀ : w₀.graph = ModuleGraph.ofNodes (builtNodes known s dir ds) := hgraph
    rw [hw₀, ModuleGraph.nodes_ofNodes] at hlink
    obtain ⟨hfinds, rfl⟩ := ModuleGraph.linkAll_eq_ok_iff.1 hlink
    refine ⟨hnames, hparts, by simpa using hkeys, hfinds, ?_⟩
    simp [built, hbundles, htargets]
  · rintro ⟨hnames, hparts, hkeys, hfinds, rfl⟩
    have hadd : ({} : ModuleGraph).addAll (builtNodes known s dir ds) =
        .ok (ModuleGraph.ofNodes (builtNodes known s dir ds)) :=
      (ModuleGraph.addAll_eq_ok_iff (by simp)).2 ⟨by simpa using hkeys, rfl⟩
    have hreg : register known s dir ⟨{}, [], s.targetList⟩ ds =
        .ok ⟨ModuleGraph.ofNodes (builtNodes known s dir ds), builtBundles known s dir ds,
          s.targetList⟩ := register_eq_ok_iff.2 ⟨hparts, hadd, rfl, rfl⟩
    have hlink := ModuleGraph.linkAll_eq_ok_iff.2 ⟨hfinds, rfl⟩
    have hrep : firstRepeated? (ds.map Declaration.name) = none :=
      firstRepeated?_eq_none_iff.2 ⟨hnames, by simp⟩
    simp only [ofDeclarations, hrep, hknown, hreg, bind, Except.bind, ModuleGraph.nodes_ofNodes,
      hlink]
    rfl

theorem named_built : (built known s dir ds).graph.named name =
    (builtNodes known s dir (ds.filter (·.name = name))).map fun n => ⟨n.key, n⟩ := by
  rw [← filter_builtNodes, ← ModuleGraph.named_ofNodes]
  rfl

theorem filter_bundles_built : (built known s dir ds).bundles.filter (·.name = name) =
    builtBundles known s dir (ds.filter (·.name = name)) :=
  filter_builtBundles

theorem edges_of_ofDeclarations (h : ofDeclarations ds s dir = .ok w) :
    w.graph.edges = w.graph.nodes.flatMap w.graph.linksOf := by
  obtain ⟨_, _, _, _, rfl⟩ := ofDeclarations_eq_ok_iff.1 h
  have hlinks : (built (defaultsAmong ds) s dir ds).graph.linksOf =
      (ModuleGraph.ofNodes (builtNodes (defaultsAmong ds) s dir ds)).linksOf :=
    ModuleGraph.linksOf_congr rfl
  rw [hlinks]
  conv_rhs => rw [show (built (defaultsAmong ds) s dir ds).graph.nodes =
    (ModuleGraph.ofNodes (builtNodes (defaultsAmong ds) s dir ds)).nodes from rfl,
    ModuleGraph.nodes_ofNodes]
  exact List.nil_append _

end Workspace

def SameDefaults (known known' : List BundleDefaults) : Prop :=
  ∀ name, known'.find? (·.name = name) = known.find? (·.name = name)

namespace Declaration

variable {known known' : List BundleDefaults} {s : Settings} {dir : Path}

theorem nodes_congr (h : SameDefaults known known') :
    nodes known' s dir = nodes known s dir := by
  have hr (b : Bundle) : b.resolved known' = b.resolved known := by
    simp only [Bundle.resolved, h _]
  funext d
  cases d with
  | bundle b => simp only [nodes, hr]
  | _ => rfl

theorem parts_congr (h : SameDefaults known known') :
    parts known' s dir = parts known s dir := by
  funext d
  rw [parts, parts, nodes_congr h]

theorem builtNodes_congr (h : SameDefaults known known') :
    builtNodes known' s dir = builtNodes known s dir := by
  funext ds
  rw [builtNodes, builtNodes, parts_congr h]

theorem builtBundles_congr (h : SameDefaults known known') :
    builtBundles known' s dir = builtBundles known s dir := by
  funext ds
  rw [builtBundles, builtBundles, parts_congr h]

end Declaration

end BundleWright
