import BundleWright.Proofs.Graph.Settled
import Mathlib.Data.List.Basic
/-!
Which variants are made. Main statements: the walk down from a bundle obliges the nodes that it
enters and no others, and a variant is made for each obligation and for each bundle itself.
-/
namespace BundleWright

namespace Annotation

variable {g : ModuleGraph} {b : BundleModule} {bs : List BundleModule} {a : Annotation} {e : Edge}
  {o : Obligation}

def enters (g : ModuleGraph) (e : Edge) : Bool := (g.node? e.child).any Node.hasBundleVariants

theorem enters_eq {n : Node} (hn : g.node? e.child = some n) :
    enters g e = n.hasBundleVariants := by simp [enters, hn]

theorem fst_visit (a : Annotation) (e : Edge) : (visit g b a e).1 = enters g e := by
  unfold visit enters
  cases g.node? e.child with
  | none => rfl
  | some n => cases h : n.hasBundleVariants <;> simp [h]

theorem mem_obligations_oblige {o' : Obligation} :
    o ∈ (a.oblige o').obligations ↔ o ∈ a.obligations ∨ o = o' := by
  unfold oblige
  split
  · next h =>
    have hm : o' ∈ a.obligations := by simpa using h
    exact ⟨.inl, fun h => h.elim id fun he => he ▸ hm⟩
  · simp

theorem mem_obligations_visit :
    o ∈ (visit g b a e).2.obligations ↔
      o ∈ a.obligations ∨ enters g e = true ∧ o = ⟨e.child, b.name⟩ := by
  unfold visit enters
  cases g.node? e.child with
  | none => simp
  | some n =>
    by_cases hv : n.hasBundleVariants = true
    · simp only [hv, ite_true, mem_obligations_oblige, Option.any_some, true_and]
      split <;> rfl
    · simp only [hv, Bool.false_eq_true, ite_false, Option.any_some, false_and, or_false]
      split <;> rfl

theorem mem_obligations_ofBundle :
    o ∈ (ofBundle g b a).obligations ↔
      o ∈ a.obligations ∨ ∃ e ∈ g.shown b.id (enters g), enters g e = true ∧
        o = ⟨e.child, b.name⟩ := by
  rw [ofBundle, ModuleGraph.walk_eq_foldl_shown fst_visit]
  induction g.shown b.id (enters g) generalizing a with
  | nil => simp
  | cons e es ih => rw [List.foldl_cons, ih, mem_obligations_visit]; simp [or_assoc]

theorem mem_obligations_ofBundles :
    o ∈ (ofBundles g bs a).obligations ↔
      o ∈ a.obligations ∨ ∃ b ∈ bs, ∃ e ∈ g.shown b.id (enters g), enters g e = true ∧
        o = ⟨e.child, b.name⟩ := by
  unfold ofBundles
  induction bs generalizing a with
  | nil => simp
  | cons b bs ih => rw [List.foldl_cons, ih, mem_obligations_ofBundle]; simp [or_assoc]

theorem enters_congr {g' : ModuleGraph} (hm : g'.members = g.members) : enters g' = enters g := by
  funext e
  rw [enters, enters, ModuleGraph.node?_congr hm]

theorem visit_congr {g' : ModuleGraph} (hm : g'.members = g.members) (b : BundleModule) :
    visit g' b = visit g b := by
  funext a e
  rw [visit, visit, ModuleGraph.node?_congr hm]

theorem ofBundle_congr {g' : ModuleGraph} (hm : g'.members = g.members) (he : g'.edges = g.edges)
    (b : BundleModule) (a : Annotation) : ofBundle g' b a = ofBundle g b a := by
  rw [ofBundle, ofBundle, visit_congr hm, ModuleGraph.walk_congr hm he]

theorem ofBundles_congr {g' : ModuleGraph} (hm : g'.members = g.members) (he : g'.edges = g.edges)
    (bs : List BundleModule) (a : Annotation) : ofBundles g' bs a = ofBundles g bs a := by
  unfold ofBundles
  congr 1
  funext a b
  exact ofBundle_congr hm he b a

end Annotation

namespace ModuleGraph

variable {g g' : ModuleGraph} {id : NodeKey} {name : String} {names : List String} {v : Variant}

/-- A settled graph in which variants are filed under the nodes they are variants of. -/
structure Filed (g : ModuleGraph) : Prop where
  settled : g.Settled
  source_eq : ∀ v ∈ g.variants, v.source = v.node

theorem Filed.eq_of_variant? (hg : g.Filed) (h : g.variant? id name = some v) :
    v ∈ g.variants ∧ v = ⟨id, name, id⟩ := by
  simp only [variant?, hg.settled.keyOf_eq] at h
  have hm := List.mem_of_find?_eq_some h
  obtain ⟨hs, hn⟩ : v.source = id ∧ v.name = name := by simpa using List.find?_some h
  have hnode : v.node = id := by rw [← hg.source_eq v hm, hs]
  cases v
  simp_all

theorem Filed.variant?_eq_some_iff (hg : g.Filed) :
    g.variant? id name = some v ↔ v ∈ g.variants ∧ v = ⟨id, name, id⟩ := by
  refine ⟨hg.eq_of_variant?, ?_⟩
  rintro ⟨hm, rfl⟩
  cases hf : g.variant? id name with
  | none =>
    simp only [variant?, hg.settled.keyOf_eq] at hf
    simpa using List.find?_eq_none.1 hf _ hm
  | some u => rw [(hg.eq_of_variant? hf).2]

theorem Filed.of_variants (hg : g.Filed) (hm : g'.members = g.members) (he : g'.edges = g.edges)
    (hv : ∀ v ∈ g'.variants, v ∈ g.variants ∨ v.source = v.node) : g'.Filed where
  settled := hg.settled.of_members_eq hm fun e h => hg.settled.source_eq e (he ▸ h)
  source_eq := fun v h => (hv v h).elim (hg.source_eq v) id

theorem Filed.mem_variants_createVariant (hg : g.Filed) :
    v ∈ (g.createVariant id name).1.variants ↔ v ∈ g.variants ∨ v = ⟨id, name, id⟩ := by
  unfold createVariant
  split
  · next u hu =>
    obtain ⟨hm, rfl⟩ := hg.variant?_eq_some_iff.1 hu
    refine ⟨.inl, ?_⟩
    rintro (h | rfl)
    · exact h
    · exact hm
  · simp [hg.settled.keyOf_eq]

theorem Filed.createVariant (hg : g.Filed) : (g.createVariant id name).1.Filed := by
  obtain ⟨hm, he⟩ := g.createVariant_frame id name
  refine hg.of_variants hm he fun v hv => ?_
  rcases hg.mem_variants_createVariant.1 hv with hv | rfl
  · exact .inl hv
  · exact .inr rfl

theorem Filed.mem_variants_createVariants (hg : g.Filed) :
    v ∈ (g.createVariants id names).1.variants ↔
      v ∈ g.variants ∨ ∃ name ∈ names, v = ⟨id, name, id⟩ := by
  induction names generalizing g with
  | nil => simp [createVariants]
  | cons name rest ih =>
    rw [show (g.createVariants id (name :: rest)).1 =
      ((g.createVariant id name).1.createVariants id rest).1 from rfl, ih hg.createVariant,
      hg.mem_variants_createVariant]
    simp [or_assoc]

theorem Filed.createVariants (hg : g.Filed) : (g.createVariants id names).1.Filed := by
  obtain ⟨hm, he⟩ := g.createVariants_frame id names
  refine hg.of_variants hm he fun v hv => ?_
  rcases hg.mem_variants_createVariants.1 hv with hv | ⟨name, _, rfl⟩
  · exact .inl hv
  · exact .inr rfl

theorem Filed.mem_variants_createAll (hg : g.Filed) {l : List (NodeKey × List String)} :
    v ∈ (g.createAll l).1.variants ↔
      v ∈ g.variants ∨ ∃ p ∈ l, ∃ name ∈ p.2, v = ⟨p.1, name, p.1⟩ := by
  induction l generalizing g with
  | nil => simp [createAll]
  | cons p rest ih =>
    rw [show (g.createAll (p :: rest)).1 = ((g.createVariants p.1 p.2).1.createAll rest).1 from rfl,
      ih hg.createVariants, hg.mem_variants_createVariants]
    simp [or_assoc]

theorem Settled.obligedNames_eq (hg : g.Settled) (os : List Obligation) :
    g.obligedNames os = ((os.map (·.node)).eraseDups.mergeSort NodeKey.le).map fun k =>
      (k, ((os.filter (·.node = k)).map (·.bundle)).eraseDups.mergeSort (· ≤ ·)) := by
  have hsame (k : NodeKey) :
      ((os.map fun o => (o.node, o)).filter (·.1 = k)).map (·.2) = os.filter (·.node = k) := by
    simp [List.filter_map, Function.comp_def]
  simp only [obligedNames, hg.keyOf_eq, hsame, List.map_map, Function.comp_def]
  refine (List.filterMap_congr fun k hk => ?_).trans (congrFun List.filterMap_eq_map _)
  obtain ⟨o, ho, rfl⟩ : ∃ o ∈ os, o.node = k := by
    simpa [List.mem_eraseDups] using List.mem_mergeSort.1 hk
  have hne : os.filter (·.node = o.node) ≠ [] := List.ne_nil_of_mem (a := o) (by simpa using ho)
  have hlast : ((os.filter (·.node = o.node)).getLast hne).node = o.node := by
    simpa using (List.mem_filter.1 (List.getLast_mem hne)).2
  rw [List.getLast?_eq_some_getLast hne, Option.map_some, hlast]
  rfl

theorem Settled.mem_obligedNames_iff (hg : g.Settled) {os : List Obligation} :
    (∃ p ∈ g.obligedNames os, p.1 = id ∧ name ∈ p.2) ↔ ⟨id, name⟩ ∈ os := by
  rw [hg.obligedNames_eq]
  simp only [List.mem_map, List.mem_mergeSort, List.mem_eraseDups]
  constructor
  · rintro ⟨_, ⟨k, _, rfl⟩, rfl, h⟩
    obtain ⟨o, ⟨ho, hk⟩, rfl⟩ : ∃ o, (o ∈ os ∧ o.node = k) ∧ o.bundle = name := by simpa using h
    subst hk
    exact ho
  · intro ho
    refine ⟨_, ⟨id, ⟨_, ho, rfl⟩, rfl⟩, rfl, ?_⟩
    simpa using ⟨_, ⟨ho, rfl⟩, rfl⟩

/-- The variants after propagation: those before it, one for each obligation, and one for each
bundle. -/
theorem Filed.mem_variants_propagate (hg : g.Filed) {bs : List BundleModule} {t : InstallTable} :
    v ∈ (g.propagate bs t).1.variants ↔
      v ∈ g.variants ∨
        (∃ o ∈ (.ofBundles g bs { table := t } : Annotation).obligations,
          v = ⟨o.node, o.bundle, o.node⟩) ∨
        ∃ b ∈ bs, v = ⟨b.id, b.name, b.id⟩ := by
  have hcreate : (g.propagate bs t).1 = (g.createAll (g.obligedNames
      (.ofBundles g bs { table := t } : Annotation).obligations ++ bs.map fun b =>
        (b.id, [b.name]))).1 := rfl
  rw [hcreate, hg.mem_variants_createAll]
  generalize (.ofBundles g bs { table := t } : Annotation).obligations = os
  refine or_congr_right ?_
  simp only [List.mem_append, or_and_right, exists_or]
  refine or_congr ⟨?_, ?_⟩ ⟨?_, ?_⟩
  · rintro ⟨p, hp, name, hname, rfl⟩
    exact ⟨_, hg.settled.mem_obligedNames_iff.1 ⟨p, hp, rfl, hname⟩, rfl⟩
  · rintro ⟨o, ho, rfl⟩
    obtain ⟨p, hp, hk, hname⟩ := hg.settled.mem_obligedNames_iff.2 ho
    exact ⟨p, hp, o.bundle, hname, by rw [hk]⟩
  · rintro ⟨p, hp, name, hname, rfl⟩
    obtain ⟨b, hb, rfl⟩ := List.mem_map.1 hp
    exact ⟨b, hb, by rw [List.mem_singleton.1 hname]⟩
  · rintro ⟨b, hb, rfl⟩
    exact ⟨_, List.mem_map_of_mem hb, b.name, by simp, rfl⟩

theorem Filed.propagate (hg : g.Filed) {bs : List BundleModule} {t : InstallTable} :
    (g.propagate bs t).1.Filed := by
  obtain ⟨hm, he⟩ := g.propagate_frame bs t
  refine hg.of_variants hm he fun v hv => ?_
  rcases hg.mem_variants_propagate.1 hv with hv | ⟨o, _, rfl⟩ | ⟨b, _, rfl⟩
  · exact .inl hv
  · exact .inr rfl
  · exact .inr rfl

end ModuleGraph

end BundleWright
