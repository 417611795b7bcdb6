import BundleWright.Proofs.Registration
import BundleWright.Proofs.Variants
import Mathlib.Data.List.Induction
/-!
What a module graph holds after any calls on it. Main statement: whatever nodes were registered or
refused, edges and variants added and nodes changed, in whatever order, the nodes, the nodes of a
name, the edges and the variants tell of the same calls, and a refused node leaves no trace.
-/
namespace BundleWright

namespace Node

def KeepsIdentity (f : Node → Node) : Prop :=
  ∀ n, (f n).name = n.name ∧ (f n).target = n.target ∧ (f n).image = n.image

def Matches (sel : Selector) (n : Node) : Prop :=
  ∀ axis wanted, (axis, wanted) ∈ sel →
    ∀ own, n.variations.lookup axis = some own → own = wanted

theorem agrees_iff_matches {sel : Selector} {n : Node} :
    ModuleGraph.agrees sel n = true ↔ n.Matches sel := by
  rw [ModuleGraph.agrees_iff, Matches]
  exact Prod.forall

theorem KeepsIdentity.key_eq {f : Node → Node} (h : KeepsIdentity f) (n : Node) :
    (f n).key = n.key := by
  obtain ⟨hname, htarget, himage⟩ := h n
  simp only [key, variantId, hname, htarget, himage]

end Node

namespace ModuleGraph

inductive Call where
  | register (n : Node)
  | depend (parent : NodeKey) (tag : Tag) (names : List String) (sel : Selector)
  | vary (id : NodeKey) (names : List String)
  | change (name : String) (f : Node → Node) (keeps : Node.KeepsIdentity f)

inductive Answer where
  | registered
  | duplicate
  | missing (names : List String)
  | variants (vs : List Variant)
  | changed

namespace Call

def run (g : ModuleGraph) : Call → ModuleGraph × Answer
  | register n =>
    match g.add? n with
    | some g' => (g', .registered)
    | none => (g, .duplicate)
  | depend parent tag names sel =>
    let (g', names) := g.addDependencies parent tag names sel
    (g', .missing names)
  | vary id names =>
    let (g', vs) := g.createVariants id names
    (g', .variants vs)
  | change name f _ => (g.modify name f, .changed)

def key? : Call → Option NodeKey
  | register n => some n.key
  | _ => none

def onNode (n : Node) : Call → Node
  | change name f _ => if n.name = name then f n else n
  | _ => n

def edges (g : ModuleGraph) : Call → List Edge
  | depend parent tag names sel =>
    names.filterMap fun name => (g.find? name sel).map fun m => ⟨parent, m.id, tag, parent⟩
  | _ => []

end Call

def after (g : ModuleGraph) (calls : List Call) : ModuleGraph :=
  calls.foldl (fun g c => (c.run g).1) g

def moments (g : ModuleGraph) : List Call → List (ModuleGraph × Call)
  | [] => []
  | c :: calls => (g, c) :: moments (c.run g).1 calls

def answers (g : ModuleGraph) (calls : List Call) : List Answer :=
  (g.moments calls).map fun m => (m.2.run m.1).2

variable {g h : ModuleGraph} {calls before later : List Call} {c : Call} {n : Node} {id : NodeKey}
  {name : String} {names : List String} {sel : Selector} {e : Edge} {v : Variant}

section Run

theorem after_append : g.after (before ++ later) = (g.after before).after later :=
  List.foldl_append

theorem moments_append :
    g.moments (before ++ later) = g.moments before ++ (g.after before).moments later := by
  induction before generalizing g with
  | nil => rfl
  | cons c before ih => exact congrArg _ ih

theorem answers_append :
    g.answers (before ++ later) = g.answers before ++ (g.after before).answers later := by
  rw [answers, moments_append, List.map_append]
  rfl

/-- The graph that a call finds is the one that the calls before it left. -/
theorem exists_of_mem_moments (hm : (h, c) ∈ g.moments calls) :
    ∃ before later, calls = before ++ c :: later ∧ h = g.after before := by
  induction calls generalizing g with
  | nil => cases hm
  | cons d calls ih =>
    rcases List.mem_cons.1 hm with heq | hm
    · cases heq
      exact ⟨[], calls, rfl, rfl⟩
    · obtain ⟨before, later, rfl, rfl⟩ := ih hm
      exact ⟨d :: before, later, rfl, rfl⟩

end Run

section Nodes

theorem run_register_of_new (hn : n.key ∉ g.members.map Member.id) :
    (Call.register n).run g = ({ g with members := g.members ++ [⟨n.key, n⟩] }, .registered) := by
  rw [Call.run, add?_eq_some_iff.2 ⟨hn, rfl⟩]

theorem run_register_of_taken (hn : n.key ∈ g.members.map Member.id) :
    (Call.register n).run g = (g, .duplicate) := by
  have hadd : g.add? n = none := by
    by_contra hne
    obtain ⟨g', hg'⟩ := Option.ne_none_iff_exists'.1 hne
    exact (add?_eq_some_iff.1 hg').1 hn
  rw [Call.run, hadd]

theorem run_register_frame (g : ModuleGraph) (n : Node) :
    ((Call.register n).run g).1.edges = g.edges ∧
      ((Call.register n).run g).1.variants = g.variants := by
  by_cases hn : n.key ∈ g.members.map Member.id
  · rw [run_register_of_taken hn]
    exact ⟨rfl, rfl⟩
  · rw [run_register_of_new hn]
    exact ⟨rfl, rfl⟩

theorem ids_modify (g : ModuleGraph) (name : String) (f : Node → Node) :
    (g.modify name f).members.map Member.id = g.members.map Member.id := by
  rw [ModuleGraph.modify, List.map_map]
  refine List.map_congr_left fun m _ => ?_
  simp only [Function.comp_apply]
  split <;> rfl

theorem ids_run (g : ModuleGraph) (c : Call) : (c.run g).1.members.map Member.id =
    g.members.map Member.id ++ c.key?.toList.removeAll (g.members.map Member.id) := by
  cases c with
  | register n =>
    have hkey : (Call.register n).key?.toList = [n.key] := rfl
    by_cases hn : n.key ∈ g.members.map Member.id
    · rw [run_register_of_taken hn, hkey, List.removeAll,
        List.filter_cons_of_neg (by simpa using hn)]
      simp
    · rw [run_register_of_new hn, hkey, List.removeAll,
        List.filter_cons_of_pos (by simpa using hn)]
      simp
  | depend parent tag names sel => simp [Call.run, Call.key?, addDependencies, List.removeAll]
  | vary id names => simp [Call.run, Call.key?, (g.createVariants_frame id names).1, List.removeAll]
  | change name f keeps => simp [Call.run, Call.key?, ids_modify, List.removeAll]

theorem mem_members_run (hg : g.Settled) {m : Member} (hm : m ∈ g.members) :
    (⟨m.id, c.onNode m.node⟩ : Member) ∈ (c.run g).1.members := by
  cases c with
  | register n =>
    by_cases hn : n.key ∈ g.members.map Member.id
    · rwa [run_register_of_taken hn]
    · rw [run_register_of_new hn]
      exact List.mem_append_left _ hm
  | depend parent tag names sel => exact hm
  | vary id names =>
    rw [show ((Call.vary id names).run g).1 = (g.createVariants id names).1 from rfl,
      (g.createVariants_frame id names).1]
    exact hm
  | change name f keeps =>
    refine List.mem_map.2 ⟨m, hm, ?_⟩
    have hname : m.id.name = m.node.name := congrArg NodeKey.name (hg.key_eq m hm).symm
    rw [hname, Call.onNode]
    split <;> rfl

theorem Settled.modify (hg : g.Settled) {f : Node → Node} (hf : Node.KeepsIdentity f) :
    (g.modify name f).Settled where
  key_eq := by
    intro m' hm'
    obtain ⟨m, hm, rfl⟩ := List.mem_map.1 hm'
    by_cases hname : m.id.name = name
    · rw [if_pos hname]
      exact (hf.key_eq m.node).trans (hg.key_eq m hm)
    · rw [if_neg hname]
      exact hg.key_eq m hm
  nodup := by
    rw [ids_modify]
    exact hg.nodup
  source_eq := hg.source_eq

theorem Filed.empty : Filed {} := ⟨.empty, by simp⟩

theorem Filed.run (hg : g.Filed) (c : Call) : (c.run g).1.Filed := by
  cases c with
  | register n =>
    by_cases hn : n.key ∈ g.members.map Member.id
    · rwa [run_register_of_taken hn]
    · have hadd := add?_eq_some_iff.2 ⟨hn, rfl⟩
      rw [run_register_of_new hn]
      exact ⟨hg.settled.add? hadd, hg.source_eq⟩
  | depend parent tag names sel =>
    exact ⟨hg.settled.addDependencies parent tag names sel, hg.source_eq⟩
  | vary id names => exact hg.createVariants
  | change name f keeps => exact ⟨hg.settled.modify keeps, hg.source_eq⟩

theorem Filed.after (hg : g.Filed) (calls : List Call) : (g.after calls).Filed := by
  induction calls generalizing g with
  | nil => exact hg
  | cons c calls ih => exact ih (hg.run c)

theorem Filed.of_mem_moments (hg : g.Filed) (hm : (h, c) ∈ g.moments calls) : h.Filed := by
  obtain ⟨before, _, _, rfl⟩ := exists_of_mem_moments hm
  exact hg.after before

/-- The keys of the nodes are those of the calls that register one, each where it comes first. -/
theorem ids_after (calls : List Call) :
    (({} : ModuleGraph).after calls).members.map Member.id =
      (calls.filterMap Call.key?).eraseDups := by
  induction calls using List.reverseRecOn with
  | nil => rfl
  | append_singleton before c ih =>
    have hsame (l : List NodeKey) :
        c.key?.toList.removeAll l.eraseDups = (c.key?.toList.removeAll l).eraseDups := by
      cases c.key? with
      | none => rfl
      | some k => by_cases hk : k ∈ l <;> simp [List.removeAll, hk, List.eraseDups_cons]
    have hlast : [c].filterMap Call.key? = c.key?.toList := by
      cases hk : c.key? <;> simp [hk]
    rw [after_append, List.filterMap_append, hlast, List.eraseDups_append, ← hsame, ← ih]
    exact ids_run _ c

theorem Filed.node?_after (hg : g.Filed) (hn : g.node? id = some n) :
    (g.after calls).node? id = some (calls.foldl Call.onNode n) := by
  induction calls generalizing g n with
  | nil => exact hn
  | cons c calls ih =>
    refine ih (hg.run c) ?_
    exact (hg.run c).settled.node?_eq (mem_members_run hg.settled (mem_of_node? hn))

end Nodes

section Edges

theorem Settled.edges_run (hg : g.Settled) (c : Call) :
    (c.run g).1.edges = g.edges ++ c.edges g := by
  cases c with
  | register n =>
    rw [(run_register_frame g n).1]
    exact (List.append_nil _).symm
  | depend parent tag names sel =>
    simp only [Call.run, Call.edges, ModuleGraph.addDependencies, hg.keyOf_eq]
  | vary id names =>
    rw [show ((Call.vary id names).run g).1 = (g.createVariants id names).1 from rfl,
      (g.createVariants_frame id names).2]
    exact (List.append_nil _).symm
  | change name f keeps => exact (List.append_nil _).symm

/-- The edges are those that the calls add, each call to the graph that it finds. -/
theorem Filed.edges_after (hg : g.Filed) (calls : List Call) :
    (g.after calls).edges = g.edges ++ (g.moments calls).flatMap fun m => m.2.edges m.1 := by
  induction calls generalizing g with
  | nil => exact (List.append_nil _).symm
  | cons c calls ih =>
    rw [show g.after (c :: calls) = (c.run g).1.after calls from rfl, ih (hg.run c),
      hg.settled.edges_run, List.append_assoc]
    rfl

theorem Call.mem_edges_iff : e ∈ c.edges g ↔
    ∃ parent tag names sel, c = .depend parent tag names sel ∧
      ∃ name ∈ names, ∃ m, g.find? name sel = some m ∧ e = ⟨parent, m.id, tag, parent⟩ := by
  cases c with
  | depend parent tag names sel =>
    simp only [Call.edges, List.mem_filterMap, Option.map_eq_some_iff, Call.depend.injEq]
    constructor
    · rintro ⟨name, hname, m, hm, rfl⟩
      exact ⟨_, _, _, _, ⟨rfl, rfl, rfl, rfl⟩, name, hname, m, hm, rfl⟩
    · rintro ⟨_, _, _, _, ⟨rfl, rfl, rfl, rfl⟩, name, hname, m, hm, rfl⟩
      exact ⟨name, hname, m, hm, rfl⟩
  | _ => simp [Call.edges]

/-- Edges lead to nodes: what a call found is there from then on. -/
theorem exists_child (he : e ∈ (({} : ModuleGraph).after calls).edges) :
    ∃ n, (({} : ModuleGraph).after calls).node? e.child = some n := by
  rw [Filed.empty.edges_after, List.nil_append, List.mem_flatMap] at he
  obtain ⟨⟨h, c⟩, hm, he⟩ := he
  have hh := Filed.empty.of_mem_moments hm
  obtain ⟨before, later, rfl, rfl⟩ := exists_of_mem_moments hm
  obtain ⟨_, _, _, _, _, _, _, m, hfind, rfl⟩ := Call.mem_edges_iff.1 he
  have hnode := hh.settled.node?_eq (find?_name hfind).1
  rw [after_append]
  exact ⟨_, hh.node?_after hnode⟩

end Edges

section Variants

def Call.Asks (c : Call) (id : NodeKey) (name : String) : Prop :=
  ∃ names, c = .vary id names ∧ name ∈ names

theorem Filed.mem_variants_run (hg : g.Filed) :
    v ∈ (c.run g).1.variants ↔ v ∈ g.variants ∨ ∃ id name, c.Asks id name ∧ v = ⟨id, name, id⟩ := by
  have hkept (hc : ∀ id names, c ≠ .vary id names) (hv : (c.run g).1.variants = g.variants) :
      v ∈ (c.run g).1.variants ↔
        v ∈ g.variants ∨ ∃ id name, c.Asks id name ∧ v = ⟨id, name, id⟩ := by
    rw [hv]
    refine ⟨.inl, fun h => h.elim (fun hv => hv) ?_⟩
    rintro ⟨id, _, ⟨names, rfl, _⟩, _⟩
    exact absurd rfl (hc id names)
  cases c with
  | register n => exact hkept (by simp) (run_register_frame g n).2
  | depend parent tag names sel => exact hkept (by simp) rfl
  | vary id names =>
    refine hg.mem_variants_createVariants.trans (or_congr_right ?_)
    constructor
    · rintro ⟨name, hname, rfl⟩
      exact ⟨id, name, ⟨names, rfl, hname⟩, rfl⟩
    · rintro ⟨_, name, ⟨_, heq, hname⟩, rfl⟩
      cases heq
      exact ⟨name, hname, rfl⟩
  | change name f keeps => exact hkept (by simp) rfl

theorem Filed.mem_variants_after (hg : g.Filed) :
    v ∈ (g.after calls).variants ↔
      v ∈ g.variants ∨ ∃ c ∈ calls, ∃ id name, c.Asks id name ∧ v = ⟨id, name, id⟩ := by
  induction calls generalizing g with
  | nil => simp [ModuleGraph.after]
  | cons c calls ih =>
    rw [show g.after (c :: calls) = (c.run g).1.after calls from rfl, ih (hg.run c),
      hg.mem_variants_run]
    simp only [List.mem_cons, exists_eq_or_imp, or_assoc]

theorem Filed.nodup_createVariant (hg : g.Filed) (hn : g.variants.Nodup) :
    (g.createVariant id name).1.variants.Nodup := by
  unfold ModuleGraph.createVariant
  split
  · exact hn
  · next hnone =>
    rw [List.nodup_append]
    refine ⟨hn, by simp, fun v hv u hu => ?_⟩
    rintro rfl
    rw [List.mem_singleton, hg.settled.keyOf_eq] at hu
    have hsome := hg.variant?_eq_some_iff.2 ⟨hv, hu⟩
    rw [hnone] at hsome
    cases hsome

theorem Filed.nodup_createVariants (hg : g.Filed) (hn : g.variants.Nodup) :
    (g.createVariants id names).1.variants.Nodup := by
  induction names generalizing g with
  | nil => exact hn
  | cons name names ih => exact ih hg.createVariant (hg.nodup_createVariant hn)

theorem Filed.nodup_run (hg : g.Filed) (hn : g.variants.Nodup) :
    (c.run g).1.variants.Nodup := by
  cases c with
  | register n => rwa [(run_register_frame g n).2]
  | depend parent tag names sel => exact hn
  | vary id names => exact hg.nodup_createVariants hn
  | change name f keeps => exact hn

theorem Filed.nodup_after (hg : g.Filed) (hn : g.variants.Nodup) :
    (g.after calls).variants.Nodup := by
  induction calls generalizing g with
  | nil => exact hn
  | cons c calls ih => exact ih (hg.run c) (hg.nodup_run hn)

theorem Filed.mem_variantsOf (hg : g.Filed) :
    v ∈ g.variantsOf id ↔ v ∈ g.variants ∧ v.node = id := by
  simp only [variantsOf, List.mem_mergeSort, List.mem_filter, decide_eq_true_eq,
    hg.settled.keyOf_eq]
  exact and_congr_right fun hv => by rw [hg.source_eq v hv]

theorem Filed.eq_of_mem_variantsOf (hg : g.Filed) (hv : v ∈ g.variantsOf id) :
    v = ⟨id, v.name, id⟩ := by
  obtain ⟨hm, rfl⟩ := hg.mem_variantsOf.1 hv
  have hs := hg.source_eq v hm
  cases v
  cases hs
  rfl

theorem Filed.variant?_eq_some_iff_fields (hg : g.Filed) :
    g.variant? id name = some v ↔ v ∈ g.variants ∧ v.node = id ∧ v.name = name := by
  rw [hg.variant?_eq_some_iff]
  refine and_congr_right fun hv => ⟨?_, ?_⟩
  · rintro rfl
    exact ⟨rfl, rfl⟩
  · rintro ⟨rfl, rfl⟩
    exact hg.eq_of_mem_variantsOf (hg.mem_variantsOf.2 ⟨hv, rfl⟩)

theorem Filed.nodup_map_variants (hg : g.Filed) (hn : g.variants.Nodup) :
    (g.variants.map fun v => (v.node, v.name)).Nodup := by
  refine hn.map_on fun v hv u hu heq => ?_
  obtain ⟨hnode, hname⟩ := Prod.mk.inj heq
  have hfound := hg.variant?_eq_some_iff_fields.2 ⟨hv, hnode, hname⟩
  rw [hg.variant?_eq_some_iff_fields.2 ⟨hu, rfl, rfl⟩] at hfound
  exact (Option.some.inj hfound).symm

theorem Filed.pairwise_variantsOf (hg : g.Filed) (hn : g.variants.Nodup) :
    ((g.variantsOf id).map Variant.name).Pairwise (· < ·) := by
  have hsort : (g.variantsOf id).map Variant.name =
      ((g.variants.filter (·.source = g.keyOf id)).map Variant.name).mergeSort (· ≤ ·) :=
    List.map_mergeSort fun _ _ _ _ => rfl
  have hnodup : (g.variantsOf id).Nodup :=
    (List.mergeSort_perm _ _).nodup_iff.2 (hn.filter _)
  refine Text.pairwise_lt_of_nodup (hsort ▸ Text.pairwise_le_mergeSort _) ?_
  refine hnodup.map_on fun v hv u hu heq => ?_
  rw [hg.eq_of_mem_variantsOf hv, hg.eq_of_mem_variantsOf hu, heq]

theorem mem_variants_iff_asks :
    v ∈ (({} : ModuleGraph).after calls).variants ↔
      ∃ c ∈ calls, ∃ id name, c.Asks id name ∧ v = ⟨id, name, id⟩ := by
  rw [Filed.empty.mem_variants_after]
  simp

theorem exists_variant_iff_asks :
    (∃ v, (({} : ModuleGraph).after calls).variant? id name = some v) ↔
      ∃ c ∈ calls, c.Asks id name := by
  simp only [(Filed.empty.after calls).variant?_eq_some_iff, mem_variants_iff_asks]
  constructor
  · rintro ⟨_, ⟨c, hc, _, _, hasks, heq⟩, rfl⟩
    cases heq
    exact ⟨c, hc, hasks⟩
  · rintro ⟨c, hc, hasks⟩
    exact ⟨_, ⟨c, hc, id, name, hasks, rfl⟩, rfl⟩

theorem forall₂_created (hm : (h, .vary id names) ∈ ({} : ModuleGraph).moments calls) :
    List.Forall₂ (fun name v => (({} : ModuleGraph).after calls).variant? id name = some v ∧
      ∀ u, h.variant? id name = some u → v = u) names (h.createVariants id names).2 := by
  have hh := Filed.empty.of_mem_moments hm
  obtain ⟨before, later, rfl, -⟩ := exists_of_mem_moments hm
  rw [hh.snd_createVariants, List.forall₂_map_right_iff, List.forall₂_same]
  intro name hname
  have hasks : (Call.vary id names).Asks id name := ⟨names, rfl, hname⟩
  refine ⟨(Filed.empty.after _).variant?_eq_some_iff.2 ⟨?_, rfl⟩, fun u hu => ?_⟩
  · exact mem_variants_iff_asks.2 ⟨_, by simp, id, name, hasks, rfl⟩
  · exact (hh.eq_of_variant? hu).2.symm

end Variants

section Lookup

theorem Settled.map_key (hg : g.Settled) : g.nodes.map Node.key = g.members.map Member.id := by
  rw [nodes, List.map_map]
  exact List.map_congr_left hg.key_eq

theorem Settled.map_named (hg : g.Settled) (name : String) :
    (g.named name).map Member.node = g.nodes.filter (·.name = name) := by
  rw [named, nodes, List.filter_map]
  refine congrArg _ (List.filter_congr fun m hm => ?_)
  rw [← hg.key_eq m hm]
  rfl

/-- A lookup finds the first node of the name that matches. -/
theorem Settled.map_find? (hg : g.Settled) (name : String) (sel : Selector) :
    (g.find? name sel).map Member.node =
      (g.nodes.filter (·.name = name)).find? fun n => agrees sel n := by
  rw [← hg.map_named, List.find?_map]
  rfl

theorem Settled.find?_eq_some_iff (hg : g.Settled) :
    (g.find? name sel).map Member.node = some n ↔
      n.Matches sel ∧ ∃ skipped rest, g.nodes.filter (·.name = name) = skipped ++ n :: rest ∧
        ∀ m ∈ skipped, ¬m.Matches sel := by
  simp only [hg.map_find?, List.find?_eq_some_iff_append, ← Node.agrees_iff_matches,
    Bool.not_eq_true, Bool.not_eq_true']

theorem Settled.find?_eq_none_iff (hg : g.Settled) :
    g.find? name sel = none ↔ ∀ n ∈ g.nodes, n.name = name → ¬n.Matches sel := by
  rw [← Option.map_eq_none_iff (f := Member.node), hg.map_find?]
  simp [List.find?_eq_none, ← Node.agrees_iff_matches]

theorem Settled.dependencies_eq (hg : g.Settled) (id : NodeKey) :
    g.dependencies id = g.edges.filter (·.parent = id) := by
  rw [dependencies, hg.keyOf_eq]
  exact List.filter_congr fun e he => by rw [hg.source_eq e he]

end Lookup

/-- What a new graph holds after calls on it. -/
structure Consistent (calls : List Call) (g : ModuleGraph) : Prop where
  nodup_keys : (g.nodes.map Node.key).Nodup
  registration_order : g.nodes.map Node.key = (calls.filterMap Call.key?).eraseDups
  /-- The first node of a key is registered, and there from then on as it is changed. -/
  registered : ∀ before n later, calls = before ++ .register n :: later →
    n.key ∉ before.filterMap Call.key? →
      ((Call.register n).run (after {} before)).2 = .registered ∧
        g.node? n.key = some (later.foldl Call.onNode n)
  /-- A later one is refused, and everything is as it would be without the call. -/
  refused : ∀ before n later, calls = before ++ .register n :: later →
    n.key ∈ before.filterMap Call.key? →
      g = after {} (before ++ later) ∧
        answers {} (before ++ later) = answers {} before ++ answers (after {} before) later ∧
        answers {} calls = answers {} before ++ .duplicate :: answers (after {} before) later
  named : ∀ name, (g.named name).map Member.node = g.nodes.filter (·.name = name)
  found : ∀ name sel n, (g.find? name sel).map Member.node = some n ↔
    n.Matches sel ∧ ∃ skipped rest, g.nodes.filter (·.name = name) = skipped ++ n :: rest ∧
      ∀ m ∈ skipped, ¬m.Matches sel
  not_found : ∀ name sel, g.find? name sel = none ↔
    ∀ n ∈ g.nodes, n.name = name → ¬n.Matches sel
  /-- Edges are what the names of the calls stood for when they were made. -/
  dependencies : ∀ id, g.dependencies id =
    (moments {} calls).flatMap fun m => (m.2.edges m.1).filter (·.parent = id)
  child : ∀ e ∈ g.edges, ∃ n, g.node? e.child = some n
  missing : ∀ h parent tag names sel, (h, .depend parent tag names sel) ∈ moments {} calls →
    ((Call.depend parent tag names sel).run h).2 =
      .missing (names.filter fun name => (h.find? name sel).isNone)
  nodup_variants : (g.variants.map fun v => (v.node, v.name)).Nodup
  variant : ∀ id name v, g.variant? id name = some v ↔
    v ∈ g.variants ∧ v.node = id ∧ v.name = name
  asked : ∀ id name, (∃ v, g.variant? id name = some v) ↔ ∃ c ∈ calls, c.Asks id name
  /-- A call returns the variants that the graph has from then on, and had if it had any. -/
  created : ∀ h id names, (h, .vary id names) ∈ moments {} calls →
    ∃ vs, ((Call.vary id names).run h).2 = .variants vs ∧
      List.Forall₂ (fun name v => g.variant? id name = some v ∧
        ∀ u, h.variant? id name = some u → v = u) names vs
  mem_variantsOf : ∀ id v, v ∈ g.variantsOf id ↔ v ∈ g.variants ∧ v.node = id
  sorted : ∀ id, ((g.variantsOf id).map Variant.name).Pairwise (· < ·)

theorem after_refused (hn : n.key ∈ g.members.map Member.id) (later : List Call) :
    g.after (.register n :: later) = g.after later ∧
      g.answers (.register n :: later) = .duplicate :: g.answers later := by
  have hrun := run_register_of_taken hn
  constructor
  · rw [after, List.foldl_cons, hrun]
    rfl
  · rw [answers, moments, List.map_cons, hrun]
    rfl

theorem consistent_after (calls : List Call) : Consistent calls (({} : ModuleGraph).after calls) := by
  have hg : (({} : ModuleGraph).after calls).Filed := Filed.empty.after calls
  have hn : (({} : ModuleGraph).after calls).variants.Nodup := Filed.empty.nodup_after (by simp)
  have hids (before : List Call) (n : Node) :
      n.key ∈ (({} : ModuleGraph).after before).members.map Member.id ↔
        n.key ∈ before.filterMap Call.key? := by
    rw [ids_after, List.mem_eraseDups]
  exact {
    nodup_keys := by
      rw [hg.settled.map_key]
      exact hg.settled.nodup
    registration_order := by rw [hg.settled.map_key, ids_after]
    registered := by
      rintro before n later rfl hnew
      have hb : (({} : ModuleGraph).after before).Filed := Filed.empty.after before
      have hrun := run_register_of_new fun hm => hnew ((hids before n).1 hm)
      have hnode := (hb.run (.register n)).settled.node?_eq (m := ⟨n.key, n⟩) (by simp [hrun])
      refine ⟨by rw [hrun], ?_⟩
      rw [after_append]
      exact (hb.run (.register n)).node?_after hnode
    refused := by
      rintro before n later rfl htaken
      obtain ⟨hafter, hanswers⟩ := after_refused ((hids before n).2 htaken) later
      refine ⟨?_, answers_append, ?_⟩
      · rw [after_append, after_append, hafter]
      · rw [answers_append, hanswers]
    named := hg.settled.map_named
    found := fun name sel n => hg.settled.find?_eq_some_iff
    not_found := fun name sel => hg.settled.find?_eq_none_iff
    dependencies := by
      intro id
      rw [hg.settled.dependencies_eq, Filed.empty.edges_after, List.nil_append,
        List.filter_flatMap]
    child := fun e he => exists_child he
    missing := by
      intro h parent tag names sel _
      simp only [Call.run, addDependencies, Option.isNone_map]
    nodup_variants := hg.nodup_map_variants hn
    variant := fun id name v => hg.variant?_eq_some_iff_fields
    asked := fun id name => exists_variant_iff_asks
    created := fun h id names hm => ⟨_, rfl, forall₂_created hm⟩
    mem_variantsOf := fun id v => hg.mem_variantsOf
    sorted := fun id => hg.pairwise_variantsOf hn }

end ModuleGraph

end BundleWright
