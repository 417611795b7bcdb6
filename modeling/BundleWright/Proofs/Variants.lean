import BundleWright.Proofs.Collection
import BundleWright.Proofs.Propagation
import BundleWright.Proofs.Text.Order
import Mathlib.Data.List.Nodup
import Mathlib.Logic.Relation
/-!
Propagation, exactly. Main statement: for each bundle one variant is made of the bundle and one of
every node below it on a way through nodes that can be built per bundle, and the table takes what
the bundle needs directly; the order of the bundles and another run make no difference.
-/
namespace BundleWright

open Relation

namespace InstallTable

variable {t : InstallTable} {x y : String} {p : String × String}

theorem mem_entries_insert : p ∈ (t.insert x y).entries ↔ p ∈ t.entries ∨ p = (x, y) := by
  unfold insert contains
  split
  · next h =>
    have hm : (x, y) ∈ t.entries := by simpa using h
    exact ⟨.inl, fun h => h.elim id fun he => he ▸ hm⟩
  · simp

theorem insert_of_mem (h : (x, y) ∈ t.entries) : t.insert x y = t := by
  simp [insert, contains, h]

theorem nodup_insert (h : t.entries.Nodup) : (t.insert x y).entries.Nodup := by
  unfold insert contains
  split
  · exact h
  · next hn =>
    have hm : (x, y) ∉ t.entries := by simpa using hn
    simpa [List.nodup_append, h] using fun u v huv he => by rintro rfl; exact hm (he ▸ huv)

end InstallTable

/-- The pairs that a bundle puts into the table: if it is installed and no test, itself with each
module that it needs directly. -/
def BundleModule.Installs (g : ModuleGraph) (b : BundleModule) (p : String × String) : Prop :=
  b.node.bundle.isInstallable = true ∧ b.node.bundle.isTest = false ∧ p.1 = b.name ∧
    ∃ e ∈ g.dependencies b.id, ∃ c, g.node? e.child = some c ∧ c.name = p.2

def ModuleGraph.BuildsAlong (g : ModuleGraph) (x y : NodeKey) : Prop :=
  (∃ e ∈ g.dependencies x, e.child = y) ∧ ∃ n, g.node? y = some n ∧ n.hasBundleVariants = true

def BundleModule.ownVariant (b : BundleModule) : Variant := ⟨b.id, b.name, b.id⟩

namespace ModuleGraph

open Annotation (enters)

variable {g : ModuleGraph} {root k : NodeKey} {e : Edge}

theorem enters_iff :
    enters g e = true ↔ ∃ n, g.node? e.child = some n ∧ n.hasBundleVariants = true := by
  rw [enters, Option.any_eq_true]

theorem Settled.buildsAlong_of_edge (hg : g.Settled) (he : e ∈ g.edges)
    (h : enters g e = true) : g.BuildsAlong e.source e.child :=
  ⟨⟨e, hg.mem_dependencies_iff.2 ⟨he, (hg.source_eq e he).symm⟩, rfl⟩, enters_iff.1 h⟩

/-- The walk for variants goes down through nodes that can be built per bundle, and no further. -/
theorem Settled.reached_iff (hg : g.Settled) :
    g.Reached (enters g) root k ↔ ReflTransGen g.BuildsAlong root k := by
  constructor
  · intro h
    induction h with
    | root => rw [hg.keyOf_eq]
    | step _ hm he ih =>
      rw [hg.keyOf_eq]
      exact ih.tail (hg.buildsAlong_of_edge hm he)
  · intro h
    induction h with
    | refl =>
      have hroot : g.Reached (enters g) root (g.keyOf root) := .root
      rwa [hg.keyOf_eq] at hroot
    | tail _ hstep ih =>
      obtain ⟨⟨e, he, rfl⟩, hn⟩ := hstep
      obtain ⟨hm, rfl⟩ := hg.mem_dependencies_iff.1 he
      rw [← hg.source_eq e hm] at ih
      simpa only [hg.keyOf_eq] using ih.step hm (enters_iff.2 hn)

theorem Settled.exists_shown_iff (hg : g.Settled) :
    (∃ e ∈ g.shown root (enters g), enters g e = true ∧ e.child = k) ↔
      TransGen g.BuildsAlong root k := by
  simp only [mem_shown_iff, hg.reached_iff, TransGen.tail'_iff]
  constructor
  · rintro ⟨e, ⟨hm, hr⟩, he, rfl⟩
    exact ⟨e.source, hr, hg.buildsAlong_of_edge hm he⟩
  · rintro ⟨x, hr, ⟨e, he, rfl⟩, hn⟩
    obtain ⟨hm, rfl⟩ := hg.mem_dependencies_iff.1 he
    exact ⟨e, ⟨hm, by rwa [hg.source_eq e hm]⟩, enters_iff.2 hn, rfl⟩

end ModuleGraph

namespace Annotation

variable {g : ModuleGraph} {b : BundleModule} {bs : List BundleModule} {a : Annotation} {e : Edge}
  {o : Obligation} {p : String × String}

def Records (g : ModuleGraph) (b : BundleModule) (e : Edge) (p : String × String) : Prop :=
  (b.node.bundle.isInstallable && !b.node.bundle.isTest && decide (e.parent = b.id)) = true ∧
    ∃ c, g.node? e.child = some c ∧ p = (b.name, c.name)

theorem table_oblige (o : Obligation) : (a.oblige o).table = a.table := by
  unfold oblige
  split <;> rfl

theorem table_visit (g : ModuleGraph) (b : BundleModule) (a : Annotation) (e : Edge) :
    (∃ x y, (visit g b a e).2.table = a.table.insert x y ∧ ∀ p, Records g b e p ↔ p = (x, y)) ∨
      (visit g b a e).2.table = a.table ∧ ∀ p, ¬Records g b e p := by
  unfold visit Records
  cases hn : g.node? e.child with
  | none => exact .inr ⟨rfl, by simp⟩
  | some c =>
    by_cases hr : (b.node.bundle.isInstallable && !b.node.bundle.isTest &&
      decide (e.parent = b.id)) = true
    · refine .inl ⟨b.name, c.name, ?_, by simp [hr]⟩
      by_cases hv : c.hasBundleVariants = true <;> simp [hr, hv, table_oblige]
    · refine .inr ⟨?_, by simp [hr]⟩
      by_cases hv : c.hasBundleVariants = true <;> simp [hr, hv, table_oblige]

theorem mem_table_visit :
    p ∈ (visit g b a e).2.table.entries ↔ p ∈ a.table.entries ∨ Records g b e p := by
  rcases table_visit g b a e with ⟨x, y, ht, hr⟩ | ⟨ht, hr⟩
  · rw [ht, InstallTable.mem_entries_insert, hr]
  · simp [ht, hr]

theorem nodup_table_visit (h : a.table.entries.Nodup) :
    (visit g b a e).2.table.entries.Nodup := by
  rcases table_visit g b a e with ⟨x, y, ht, _⟩ | ⟨ht, _⟩
  · rw [ht]
    exact InstallTable.nodup_insert h
  · rwa [ht]

theorem table_visit_of_mem (h : ∀ p, Records g b e p → p ∈ a.table.entries) :
    (visit g b a e).2.table = a.table := by
  rcases table_visit g b a e with ⟨x, y, ht, hr⟩ | ⟨ht, _⟩
  · rw [ht, InstallTable.insert_of_mem (h _ ((hr _).2 rfl))]
  · exact ht

section Shown

variable (es : List Edge)

theorem mem_table_foldl :
    p ∈ (es.foldl (fun a e => (visit g b a e).2) a).table.entries ↔
      p ∈ a.table.entries ∨ ∃ e ∈ es, Records g b e p := by
  induction es generalizing a with
  | nil => simp
  | cons e es ih => simp [ih, mem_table_visit, or_assoc]

theorem nodup_table_foldl (h : a.table.entries.Nodup) :
    (es.foldl (fun a e => (visit g b a e).2) a).table.entries.Nodup := by
  induction es generalizing a with
  | nil => exact h
  | cons e es ih => exact ih (nodup_table_visit h)

theorem table_foldl_of_mem (h : ∀ e ∈ es, ∀ p, Records g b e p → p ∈ a.table.entries) :
    (es.foldl (fun a e => (visit g b a e).2) a).table = a.table := by
  induction es generalizing a with
  | nil => rfl
  | cons e es ih =>
    have he := table_visit_of_mem (h e (by simp))
    rw [List.foldl_cons, ih fun d hd p hp => ?_, he]
    rw [he]
    exact h d (by simp [hd]) p hp

end Shown

theorem ofBundle_eq_foldl (g : ModuleGraph) (b : BundleModule) (a : Annotation) :
    ofBundle g b a =
      (g.shown b.id (enters g)).foldl (fun a e => (visit g b a e).2) a := by
  rw [ofBundle, ModuleGraph.walk_eq_foldl_shown fst_visit]

theorem exists_records_iff (hg : g.Settled) :
    (∃ e ∈ g.shown b.id (enters g), Records g b e p) ↔ b.Installs g p := by
  have hroot : g.Reached (enters g) b.id b.id := hg.reached_iff.2 .refl
  unfold Records BundleModule.Installs
  simp only [Bool.and_eq_true, Bool.not_eq_true', decide_eq_true_eq, ModuleGraph.mem_shown_iff,
    hg.mem_dependencies_iff]
  constructor
  · rintro ⟨e, ⟨hm, _⟩, ⟨⟨hi, ht⟩, hp⟩, c, hc, rfl⟩
    exact ⟨hi, ht, rfl, e, ⟨hm, hp⟩, c, hc, rfl⟩
  · rintro ⟨hi, ht, hx, e, ⟨hm, hp⟩, c, hc, hy⟩
    refine ⟨e, ⟨hm, ?_⟩, ⟨⟨hi, ht⟩, hp⟩, c, hc, by rw [← hx, hy]⟩
    rwa [hg.source_eq e hm, hp]

theorem mem_table_ofBundles (hg : g.Settled) :
    p ∈ (ofBundles g bs a).table.entries ↔
      p ∈ a.table.entries ∨ ∃ b ∈ bs, b.Installs g p := by
  unfold ofBundles
  induction bs generalizing a with
  | nil => simp
  | cons b bs ih =>
    rw [List.foldl_cons, ih, ofBundle_eq_foldl, mem_table_foldl, exists_records_iff hg]
    simp [or_assoc]

theorem nodup_table_ofBundles (h : a.table.entries.Nodup) :
    (ofBundles g bs a).table.entries.Nodup := by
  unfold ofBundles
  induction bs generalizing a with
  | nil => exact h
  | cons b bs ih =>
    rw [List.foldl_cons]
    refine ih ?_
    rw [ofBundle_eq_foldl]
    exact nodup_table_foldl _ h

theorem table_ofBundles_of_mem (hg : g.Settled)
    (h : ∀ b ∈ bs, ∀ p, b.Installs g p → p ∈ a.table.entries) :
    (ofBundles g bs a).table = a.table := by
  unfold ofBundles
  induction bs generalizing a with
  | nil => rfl
  | cons b bs ih =>
    have hb : (ofBundle g b a).table = a.table := by
      rw [ofBundle_eq_foldl]
      exact table_foldl_of_mem _ fun e he p hp =>
        h b (by simp) p ((exists_records_iff hg).1 ⟨e, he, hp⟩)
    rw [List.foldl_cons, ih fun c hc p hp => ?_, hb]
    rw [hb]
    exact h c (by simp [hc]) p hp

/-- Bundles oblige what lies below them on a way through nodes that can be built per bundle. -/
theorem mem_obligations_iff (hg : g.Settled) :
    o ∈ (ofBundles g bs a).obligations ↔
      o ∈ a.obligations ∨ ∃ b ∈ bs, o.bundle = b.name ∧ TransGen g.BuildsAlong b.id o.node := by
  rw [mem_obligations_ofBundles]
  refine or_congr_right (exists_congr fun b => and_congr_right fun _ => ?_)
  rw [← hg.exists_shown_iff]
  constructor
  · rintro ⟨e, he, henters, rfl⟩
    exact ⟨rfl, e, he, henters, rfl⟩
  · rintro ⟨hb, e, he, henters, hk⟩
    exact ⟨e, he, henters, by cases o; simp_all⟩

end Annotation

namespace NodeKey

variable {a b c : NodeKey}

theorem le_trans (hab : a.le b = true) (hbc : b.le c = true) : a.le c = true := by
  unfold le at *
  grind [String.le_trans, String.le_antisymm]

theorem le_total (a b : NodeKey) : (a.le b || b.le a) = true := by
  unfold le
  grind [String.le_total]

end NodeKey

def Variant.Before (v w : Variant) : Prop :=
  v.node ≠ w.node ∧ v.node.le w.node = true ∨ v.node = w.node ∧ v.name < w.name

theorem Variant.nodup_of_before {l : List Variant} (h : l.Pairwise Variant.Before) : l.Nodup := by
  refine h.imp ?_
  rintro v _ (⟨hne, _⟩ | ⟨_, hlt⟩) rfl
  · exact hne rfl
  · exact String.lt_irrefl _ hlt

namespace ModuleGraph

open Annotation (mem_table_ofBundles ofBundles_congr)

variable {g : ModuleGraph} {id : NodeKey} {name : String} {names : List String} {v : Variant}
  {l : List (NodeKey × List String)} {os : List Obligation}

theorem Filed.snd_createVariant (hg : g.Filed) :
    (g.createVariant id name).2 = ⟨id, name, id⟩ := by
  unfold ModuleGraph.createVariant
  split
  · next u hu => exact (hg.eq_of_variant? hu).2
  · simp [hg.settled.keyOf_eq]

theorem Filed.snd_createVariants (hg : g.Filed) :
    (g.createVariants id names).2 = names.map (⟨id, ·, id⟩) := by
  induction names generalizing g with
  | nil => rfl
  | cons name rest ih =>
    rw [List.map_cons, ← ih hg.createVariant, ← hg.snd_createVariant]
    rfl

theorem Filed.snd_createAll (hg : g.Filed) :
    (g.createAll l).2 = l.flatMap fun p => p.2.map (⟨p.1, ·, p.1⟩) := by
  induction l generalizing g with
  | nil => rfl
  | cons p rest ih =>
    rw [List.flatMap_cons, ← ih hg.createVariants, ← hg.snd_createVariants]
    rfl

theorem Filed.createVariant_of_mem (hg : g.Filed) (h : ⟨id, name, id⟩ ∈ g.variants) :
    (g.createVariant id name).1 = g := by
  unfold ModuleGraph.createVariant
  rw [hg.variant?_eq_some_iff.2 ⟨h, rfl⟩]

theorem Filed.createVariants_of_mem (hg : g.Filed)
    (h : ∀ name ∈ names, ⟨id, name, id⟩ ∈ g.variants) : (g.createVariants id names).1 = g := by
  induction names with
  | nil => rfl
  | cons name rest ih =>
    have hstep : (g.createVariants id (name :: rest)).1 =
      ((g.createVariant id name).1.createVariants id rest).1 := rfl
    rw [hstep, hg.createVariant_of_mem (h name (by simp)), ih fun m hm => h m (by simp [hm])]

theorem Filed.createAll_of_mem (hg : g.Filed)
    (h : ∀ p ∈ l, ∀ name ∈ p.2, ⟨p.1, name, p.1⟩ ∈ g.variants) : (g.createAll l).1 = g := by
  induction l with
  | nil => rfl
  | cons p rest ih =>
    have hstep : (g.createAll (p :: rest)).1 =
      ((g.createVariants p.1 p.2).1.createAll rest).1 := rfl
    rw [hstep, hg.createVariants_of_mem (h p (by simp)), ih fun q hq => h q (by simp [hq])]

def variantsFor (g : ModuleGraph) (os : List Obligation) : List Variant :=
  (g.obligedNames os).flatMap fun p => p.2.map (⟨p.1, ·, p.1⟩)

theorem Settled.mem_variantsFor (hg : g.Settled) :
    v ∈ g.variantsFor os ↔ ∃ o ∈ os, v = ⟨o.node, o.bundle, o.node⟩ := by
  simp only [variantsFor, List.mem_flatMap, List.mem_map]
  constructor
  · rintro ⟨p, hp, name, hname, rfl⟩
    exact ⟨⟨p.1, name⟩, hg.mem_obligedNames_iff.1 ⟨p, hp, rfl, hname⟩, rfl⟩
  · rintro ⟨o, ho, rfl⟩
    obtain ⟨p, hp, hk, hname⟩ := hg.mem_obligedNames_iff.2 ho
    exact ⟨p, hp, o.bundle, hname, by rw [hk]⟩

theorem Settled.pairwise_variantsFor (hg : g.Settled) (os : List Obligation) :
    (g.variantsFor os).Pairwise Variant.Before := by
  rw [variantsFor, hg.obligedNames_eq, List.pairwise_flatMap]
  constructor
  · simp only [List.mem_map]
    rintro _ ⟨k, _, rfl⟩
    refine List.pairwise_map.2 (List.Pairwise.imp (fun h => .inr ⟨rfl, h⟩) ?_)
    exact Text.pairwise_lt_sortedOnce _
  · have hsorted : ((os.map (·.node)).eraseDups.mergeSort NodeKey.le).Pairwise
        fun a b => a.le b = true :=
      @List.pairwise_mergeSort _ NodeKey.le (fun _ _ _ => NodeKey.le_trans) NodeKey.le_total _
    have hnodup : ((os.map (·.node)).eraseDups.mergeSort NodeKey.le).Nodup :=
      (List.mergeSort_perm _ _).nodup_iff.2 (Text.nodup_eraseDups _)
    rw [List.pairwise_map]
    refine (hnodup.and hsorted).imp fun h x hx y hy => ?_
    obtain ⟨_, _, rfl⟩ := List.mem_map.1 hx
    obtain ⟨_, _, rfl⟩ := List.mem_map.1 hy
    exact .inl h

variable {b : BundleModule} {bs bs' : List BundleModule} {t : InstallTable} {x : NodeKey}

theorem not_transGen_of_bundle (hb : g.node? b.id = some b.toNode) :
    ¬TransGen g.BuildsAlong x b.id := by
  intro h
  obtain ⟨_, _, _, n, hn, hv⟩ := TransGen.tail'_iff.1 h
  obtain rfl : b.toNode = n := Option.some.inj (hb.symm.trans hn)
  cases hv

theorem Filed.snd_propagate (hg : g.Filed) :
    (g.propagate bs t).2.2 =
      g.variantsFor (.ofBundles g bs { table := t } : Annotation).obligations ++
        bs.map BundleModule.ownVariant := by
  have hcreate : (g.propagate bs t).2.2 = (g.createAll (g.obligedNames
      (.ofBundles g bs { table := t } : Annotation).obligations ++ bs.map fun b =>
        (b.id, [b.name]))).2 := rfl
  rw [hcreate, hg.snd_createAll, List.flatMap_append, variantsFor, List.flatMap_map]
  congr 1
  exact List.map_eq_flatMap.symm

theorem Filed.mem_variants_propagate_iff (hg : g.Filed) :
    v ∈ (g.propagate bs t).1.variants ↔
      v ∈ g.variants ∨ v ∈ g.variantsFor (.ofBundles g bs { table := t } : Annotation).obligations ∨
        v ∈ bs.map BundleModule.ownVariant := by
  rw [hg.mem_variants_propagate, hg.settled.mem_variantsFor, List.mem_map]
  exact or_congr_right (or_congr_right (exists_congr fun b => and_congr_right fun _ => eq_comm))

theorem Settled.mem_variantsFor_ofBundles (hg : g.Settled) :
    v ∈ g.variantsFor (.ofBundles g bs { table := t } : Annotation).obligations ↔
      ∃ b ∈ bs, v = ⟨v.node, b.name, v.node⟩ ∧ TransGen g.BuildsAlong b.id v.node := by
  simp only [hg.mem_variantsFor, Annotation.mem_obligations_iff hg, List.not_mem_nil, false_or]
  constructor
  · rintro ⟨o, ⟨b, hb, hname, hway⟩, rfl⟩
    exact ⟨b, hb, by rw [hname], hway⟩
  · rintro ⟨b, hb, hv, hway⟩
    exact ⟨⟨v.node, b.name⟩, ⟨b, hb, rfl, hway⟩, hv⟩

/-- What propagation yields: exactly the variants and the table entries that the bundles ask for,
and the variants also as a list, in which the bundles themselves come last. -/
structure Propagated (g : ModuleGraph) (bs : List BundleModule)
    (r : ModuleGraph × InstallTable × List Variant) : Prop where
  variant_iff (m : NodeKey) (n : String) : (r.1.variant? m n).isSome = true ↔
    ∃ b ∈ bs, n = b.name ∧ (m = b.id ∨ TransGen g.BuildsAlong b.id m)
  mem_entries_iff (p : String × String) : p ∈ r.2.1.entries ↔ ∃ b ∈ bs, b.Installs g p
  nodup_entries : r.2.1.entries.Nodup
  mem_list_iff (v : Variant) : v ∈ r.2.2 ↔ v ∈ r.1.variants
  nodup_list : r.2.2.Nodup
  list_eq : ∃ below : List Variant, r.2.2 = below ++ bs.map BundleModule.ownVariant ∧
    below.Pairwise Variant.Before ∧
    ∀ v ∈ below, ∃ b ∈ bs, v.name = b.name ∧ TransGen g.BuildsAlong b.id v.node

section

variable (hb : ∀ b ∈ bs, g.node? b.id = some b.toNode) (hn : (bs.map (·.name)).Nodup)
include hb hn

theorem Filed.nodup_snd_propagate (hg : g.Filed) : (g.propagate bs t).2.2.Nodup := by
  rw [hg.snd_propagate, List.nodup_append]
  refine ⟨Variant.nodup_of_before (hg.settled.pairwise_variantsFor _), ?_, ?_⟩
  · refine List.Nodup.of_map Variant.name ?_
    rwa [List.map_map]
  · rintro v hv _ hown rfl
    obtain ⟨c, hc, rfl⟩ := List.mem_map.1 hown
    obtain ⟨_, _, _, hway⟩ := hg.settled.mem_variantsFor_ofBundles.1 hv
    exact not_transGen_of_bundle (hb c hc) hway

theorem Filed.propagated (hg : g.Filed) (hv : g.variants = []) :
    g.Propagated bs (g.propagate bs {}) where
  variant_iff m n := by
    rw [Option.isSome_iff_exists]
    simp only [hg.propagate.variant?_eq_some_iff, hg.mem_variants_propagate_iff, hv,
      List.not_mem_nil, false_or, hg.settled.mem_variantsFor_ofBundles, List.mem_map]
    constructor
    · rintro ⟨_, ⟨b, hb, hvb, hway⟩ | ⟨b, hb, hvb⟩, rfl⟩
      · exact ⟨b, hb, congrArg Variant.name hvb, .inr hway⟩
      · exact ⟨b, hb, (congrArg Variant.name hvb).symm, .inl (congrArg Variant.node hvb).symm⟩
    · rintro ⟨b, hb, rfl, rfl | hway⟩
      · exact ⟨_, .inr ⟨b, hb, rfl⟩, rfl⟩
      · exact ⟨_, .inl ⟨b, hb, rfl, hway⟩, rfl⟩
  mem_entries_iff _ := (mem_table_ofBundles hg.settled).trans (by simp)
  nodup_entries := Annotation.nodup_table_ofBundles List.nodup_nil
  mem_list_iff v := by
    rw [hg.snd_propagate, hg.mem_variants_propagate_iff, hv, List.mem_append]
    simp
  nodup_list := hg.nodup_snd_propagate hb hn
  list_eq := by
    refine ⟨_, hg.snd_propagate, hg.settled.pairwise_variantsFor _, fun v hv => ?_⟩
    obtain ⟨b, hb, hvb, hway⟩ := hg.settled.mem_variantsFor_ofBundles.1 hv
    exact ⟨b, hb, congrArg Variant.name hvb, hway⟩

end

theorem Filed.mem_variants_propagate_perm (hg : g.Filed) (hp : bs'.Perm bs) :
    v ∈ (g.propagate bs' t).1.variants ↔ v ∈ (g.propagate bs t).1.variants := by
  simp only [hg.mem_variants_propagate_iff, hg.settled.mem_variantsFor_ofBundles, List.mem_map,
    hp.mem_iff]

theorem Settled.mem_table_propagate_iff (hg : g.Settled) {p : String × String} :
    p ∈ (g.propagate bs t).2.1.entries ↔ p ∈ t.entries ∨ ∃ b ∈ bs, b.Installs g p :=
  Annotation.mem_table_ofBundles hg

theorem Settled.mem_table_propagate_perm (hg : g.Settled) (hp : bs'.Perm bs)
    {p : String × String} :
    p ∈ (g.propagate bs' t).2.1.entries ↔ p ∈ (g.propagate bs t).2.1.entries := by
  simp only [hg.mem_table_propagate_iff, hp.mem_iff]

/-- All that the bundles ask for is there after one run. -/
theorem Filed.propagate_propagate (hg : g.Filed) (hp : bs'.Perm bs) {t' : InstallTable} :
    ((g.propagate bs t).1.propagate bs' t').1 = (g.propagate bs t).1 := by
  obtain ⟨hm, he⟩ := g.propagate_frame bs t
  refine hg.propagate.createAll_of_mem fun p hpl name hname => ?_
  have hv : ⟨p.1, name, p.1⟩ ∈ ((g.propagate bs t).1.propagate bs' t').1.variants :=
    hg.propagate.mem_variants_createAll.2 (.inr ⟨p, hpl, name, hname, rfl⟩)
  rw [hg.propagate.mem_variants_propagate_iff, hg.propagate.settled.mem_variantsFor,
    Annotation.ofBundles_congr hm he, ← hg.settled.mem_variantsFor,
    hg.settled.mem_variantsFor_ofBundles] at hv
  simp only [List.mem_map, hp.mem_iff] at hv
  -- a variant made in the second run is one that the first run made for the same bundle
  rcases hv with hv | hv | hv
  · exact hv
  · exact hg.mem_variants_propagate_iff.2
      (.inr (.inl (hg.settled.mem_variantsFor_ofBundles.2 hv)))
  · exact hg.mem_variants_propagate_iff.2 (.inr (.inr (List.mem_map.2 hv)))

theorem table_propagate_propagate {t' : InstallTable} :
    ((g.propagate bs t).1.propagate bs' t').2.1 = (g.propagate bs' t').2.1 := by
  obtain ⟨hm, he⟩ := g.propagate_frame bs t
  exact congrArg Annotation.table (ofBundles_congr hm he bs' _)

theorem Settled.table_propagate_of_perm (hg : g.Settled) (hp : bs'.Perm bs) :
    (g.propagate bs' (g.propagate bs t).2.1).2.1 = (g.propagate bs t).2.1 := by
  refine Annotation.table_ofBundles_of_mem hg fun b hb p hi => ?_
  exact hg.mem_table_propagate_iff.2 (.inr ⟨b, hp.mem_iff.1 hb, hi⟩)

/-- Propagation from an empty table makes the variants and records the pairs that the bundles ask
for, and no others; the bundles' order and further runs change neither. -/
theorem propagate_exact (hg : g.Settled) (hv : g.variants = [])
    (hb : ∀ b ∈ bs, g.node? b.id = some b.toNode) (hn : (bs.map (·.name)).Nodup) :
    g.Propagated bs (g.propagate bs {}) ∧ ∀ bs', bs'.Perm bs →
      (∀ v, v ∈ (g.propagate bs' {}).1.variants ↔ v ∈ (g.propagate bs {}).1.variants) ∧
      (∀ p, p ∈ (g.propagate bs' {}).2.1.entries ↔ p ∈ (g.propagate bs {}).2.1.entries) ∧
      ((g.propagate bs {}).1.propagate bs' {}).1 = (g.propagate bs {}).1 ∧
      (∀ p, p ∈ ((g.propagate bs {}).1.propagate bs' {}).2.1.entries ↔
        p ∈ (g.propagate bs {}).2.1.entries) ∧
      ((g.propagate bs {}).1.propagate bs' (g.propagate bs {}).2.1).1 = (g.propagate bs {}).1 ∧
      ((g.propagate bs {}).1.propagate bs' (g.propagate bs {}).2.1).2.1 =
        (g.propagate bs {}).2.1 := by
  have hf : g.Filed := ⟨hg, by simp [hv]⟩
  refine ⟨hf.propagated hb hn hv, fun bs' hp => ?_⟩
  refine ⟨fun v => hf.mem_variants_propagate_perm hp, fun p => hg.mem_table_propagate_perm hp,
    hf.propagate_propagate hp, fun p => ?_, hf.propagate_propagate hp, ?_⟩
  · rw [table_propagate_propagate, hg.mem_table_propagate_perm hp]
  · rw [table_propagate_propagate, hg.table_propagate_of_perm hp]

def sharedRing : ModuleGraph where
  members := Collection.ring.members ++
    [⟨⟨"y", "android_common"⟩, ⟨"y", TargetOs.android.common, [], coreImage,
      .bundle ⟨{ name := "y", flavor := .test }, [], .here⟩⟩⟩]
  edges := Collection.ring.edges ++
    [⟨⟨"y", "android_common"⟩, ⟨"b", "android_arm64"⟩, .sharedLib, ⟨"y", "android_common"⟩⟩]

def ringTest : BundleModule where
  name := "y"
  target := TargetOs.android.common
  node := ⟨{ name := "y", flavor := .test }, [], .here⟩

theorem propagate_exact_sharedRing :
    sharedRing.Settled ∧ sharedRing.variants = [] ∧
      (∀ b ∈ [Collection.ringBundle, ringTest], sharedRing.node? b.id = some b.toNode) ∧
      ([Collection.ringBundle, ringTest].map (·.name)).Nodup ∧
      sharedRing.Propagated [Collection.ringBundle, ringTest]
        (sharedRing.propagate [Collection.ringBundle, ringTest] {}) := by
  have hg : sharedRing.Settled := ⟨by decide, by decide, by decide⟩
  have hb : ∀ b ∈ [Collection.ringBundle, ringTest], sharedRing.node? b.id = some b.toNode := by
    decide
  have hn : ([Collection.ringBundle, ringTest].map (·.name)).Nodup := by decide
  exact ⟨hg, rfl, hb, hn, (propagate_exact hg rfl hb hn).1⟩

end ModuleGraph

end BundleWright
