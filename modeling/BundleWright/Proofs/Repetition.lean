import BundleWright.Proofs.Alike
import BundleWright.Proofs.Answered
import BundleWright.Proofs.Graph.Repeated
import BundleWright.Proofs.Variants
/-!
What the repeated edges of a bundle change. Main statements: the walks down from the bundle note
nothing new on them, and of a bundle that is planned the only difference is that the problems of
its direct dependencies are listed again.
-/
namespace BundleWright

/-- A graph in which a bundle has some of its edges again, behind the others, and in which whatever
is no bundle has the edges it had. -/
structure ModuleGraph.Repeats (g g' : ModuleGraph) (b : BundleModule) (again : List Edge) :
    Prop where
  members : g'.members = g.members
  root : g'.dependencies b.id = g.dependencies b.id ++ again
  mem : ∀ e ∈ again, e ∈ g.dependencies b.id
  below : ∀ id n, g.node? id = some n → (∀ x, n.kind ≠ .bundle x) →
    g'.dependencies id = g.dependencies id

theorem ModuleGraph.Repeats.shown_eq {g g' : ModuleGraph} {b : BundleModule} {again : List Edge}
    (h : g.Repeats g' b again) {enters : Edge → Bool}
    (hn : ∀ e, enters e = true → ∃ n, g.node? e.child = some n ∧ ∀ x, n.kind ≠ .bundle x) :
    g'.shown b.id enters = g.shown b.id enters ++ again := by
  refine shown_of_repeated (keyOf_congr h.members) (fun e he => ?_) h.root h.mem
  obtain ⟨n, hc, hk⟩ := hn e he
  exact h.below e.child n hc hk

namespace PackagedFile

variable {files again : List PackagedFile} {met : List Path}

theorem dropRepeated_of_met (h : ∀ f ∈ again, f.builtFile ∈ met) : dropRepeated again met = [] := by
  induction again with
  | nil => rfl
  | cons f rest ih =>
    rw [dropRepeated, if_pos (by simpa using h f List.mem_cons_self)]
    exact ih fun k hk => h k (List.mem_cons_of_mem _ hk)

theorem dropRepeated_append (h : ∀ f ∈ again, f ∈ files ∨ f.builtFile ∈ met) :
    dropRepeated (files ++ again) met = dropRepeated files met := by
  induction files generalizing met with
  | nil =>
    rw [List.nil_append, dropRepeated_of_met fun f hf => by simpa using h f hf]
    rfl
  | cons f rest ih =>
    rw [List.cons_append, dropRepeated, dropRepeated]
    split
    · next hf =>
      refine ih fun k hk => (h k hk).elim (fun hm => ?_) .inr
      rcases List.mem_cons.1 hm with rfl | hm
      · exact .inr (by simpa using hf)
      · exact .inl hm
    · rw [ih fun k hk => (h k hk).elim (fun hm => ?_) fun hm => .inr (List.mem_cons_of_mem _ hm)]
      rcases List.mem_cons.1 hm with rfl | hm
      · exact .inr List.mem_cons_self
      · exact .inl hm

end PackagedFile

namespace Findings

variable {g g' : ModuleGraph} {s : Settings} {b : BundleModule} {e : Edge} {again : List Edge}

theorem not_bundle_of_opens (h : opens g s b e = true) :
    ∃ n, g.node? e.child = some n ∧ ∀ x, n.kind ≠ .bundle x := by
  obtain ⟨n, hn⟩ := node?_of_opens h
  refine ⟨n, hn, fun x hx => ?_⟩
  unfold opens at h
  by_cases hp : e.parent = b.id
  · simp [visit_direct s hp hn, direct_of_bundle hx] at h
  · simp [visit_indirect s hp hn, indirect_of_bundle hx] at h

section Repeats

variable (h : g.Repeats g' b again)
include h

theorem ofBundle_of_repeats :
    ofBundle g' s b = (again.map (note g s b)).foldl append (ofBundle g s b) := by
  rw [ofBundle_eq, ofBundle_eq, edges, edges, opens_congr g s b h.members,
    note_congr g s b h.members, h.shown_eq fun e => not_bundle_of_opens, List.map_append,
    List.foldl_append]

theorem normalised_of_repeats (hg : g.Settled) :
    Collection.normalised b.name (ofBundle g' s b).files =
      Collection.normalised b.name (ofBundle g s b).files := by
  rw [Collection.normalised, Collection.normalised, ofBundle_of_repeats h, files_foldl_append,
    PackagedFile.dropRepeated_append fun f hf => .inl ?_]
  obtain ⟨n, hn, hf⟩ := List.mem_flatMap.1 hf
  obtain ⟨e, he, rfl⟩ := List.mem_map.1 hn
  exact mem_files_ofBundle.2 ⟨e, mem_edges_of_mem_dependencies hg s (h.mem e he), hf⟩

theorem errors_of_repeats :
    (ofBundle g' s b).errors =
      (ofBundle g s b).errors ++ again.flatMap fun e => (note g s b e).errors := by
  rw [ofBundle_of_repeats h, errors_foldl_append, List.flatMap_map]

/-- A field stays as it is when the bundle has one edge at most that can fill it. -/
theorem DecidedLast.of_repeats {α : Type} {field : Findings → Option α} {t : Tag}
    (hf : DecidedLast b field) (hg : g.Settled)
    (htag : ∀ tag n x, field (direct s b {} tag n).2 = some x → tag = t)
    (hone : ∀ d ∈ g.dependencies b.id, ∀ e ∈ g.dependencies b.id, d.tag = t → e.tag = t → d = e) :
    field (ofBundle g' s b) = field (ofBundle g s b) := by
  rw [ofBundle_of_repeats h, hf.foldl_append]
  cases hx : (again.map (note g s b)).reverse.findSome? field with
  | none => rfl
  | some x =>
    obtain ⟨found, hmem, hfound⟩ := List.exists_of_findSome?_eq_some hx
    obtain ⟨e, he, rfl⟩ := List.mem_map.1 (List.mem_reverse.1 hmem)
    obtain ⟨_, n, hn, hdirect⟩ := hf.note_iff.1 hfound
    have hlast := hf.eq_direct s hg (h.mem e he) hn fun d hd m y hy =>
      hone d hd e (h.mem e he) (htag _ _ _ hy) (htag _ _ _ hdirect)
    rw [hlast, hdirect]
    rfl

end Repeats

end Findings

def Collection.listing (c : Collection) (more : List PropertyError) : Collection :=
  { c with errors := c.errors ++ more }

/-- The outcome when more problems are found: a plan has them behind the others, and a fatal error
stands alone. -/
def Outcome.listing (o : Outcome) (more : List PropertyError) : Outcome :=
  match o.result with
  | .error _ => o
  | .ok plan =>
    { o with
      result := .ok { plan with errors := plan.errors ++ more }
      errors := o.errors ++ more }

theorem Outcome.bundle_listing (o : Outcome) (more : List PropertyError) :
    (o.listing more).bundle = o.bundle := by
  unfold listing
  split <;> rfl

theorem Outcome.listing_eq_iff {o : Outcome} {more : List PropertyError} :
    o.listing more = o ↔ more = [] ∨ ∃ e, o.result = .error e := by
  unfold listing
  split
  · next e he => simp [he]
  · next plan hp =>
    constructor
    · intro h
      exact .inl (List.append_right_eq_self.1 (congrArg Outcome.errors h))
    · rintro (rfl | ⟨e, he⟩)
      · cases o
        simp_all
      · rw [hp] at he
        cases he

theorem Outcome.listing_errors (o : Outcome) (reported more : List PropertyError) :
    { o with errors := reported ++ o.errors }.listing more =
      { o.listing more with errors := reported ++ (o.listing more).errors } := by
  obtain ⟨b, result, errors⟩ := o
  cases result with
  | error e => rfl
  | ok plan => simp [listing]

/-- Problems do not change what is planned. -/
theorem BundleModule.plan_listing (b : BundleModule) (c : Collection) (s : Settings)
    (tree : FileTree) (more : List PropertyError) :
    b.plan (c.listing more) s tree =
      (b.plan c s tree).map fun p => { p with errors := p.errors ++ more } := by
  unfold plan
  cases b.selection with
  | error e => rfl
  | ok selection =>
    cases hi : selection.hasImage with
    | false =>
      simp only [Except.mapError, bind, Except.bind, hi, Bool.false_eq_true, ite_false]
      rfl
    | true =>
      simp only [Except.mapError, bind, Except.bind, hi, ite_true]
      cases b.fileContexts s tree <;> rfl

section Repeats

variable {g g' : ModuleGraph} {s : Settings} {b : BundleModule} {again : List Edge}
  (h : g.Repeats g' b again) (hg : g.Settled) (hd : g.dependencies b.id = g.bundleEdges b s)
include h hg hd

theorem Collection.ofBundle_of_repeats :
    ofBundle g' b s = (ofBundle g b s).map
      (·.listing (again.flatMap fun e => (Findings.note g s b e).errors)) := by
  have hone {t : Tag} (ht : t = .key ∨ t = .certificate) : ∀ d ∈ g.dependencies b.id,
      ∀ e ∈ g.dependencies b.id, d.tag = t → e.tag = t → d = e := by
    rintro d hd' e he rfl hde
    rw [hd] at hd' he
    exact (ModuleGraph.eq_of_mem_bundleEdges hd' he ht hde).symm
  have hkey := Findings.decidedLast_keyFile.of_repeats (s := s) h hg
    (fun _ _ _ hx => (Findings.keyFile_direct.1 hx).1) (hone (.inl rfl))
  have hpublic := Findings.decidedLast_publicKeyFile.of_repeats (s := s) h hg
    (fun _ _ _ hx => (Findings.publicKeyFile_direct.1 hx).1) (hone (.inl rfl))
  have hcertificate := Findings.decidedLast_certificate.of_repeats (s := s) h hg
    (fun _ _ _ hx => (Findings.certificate_direct.1 hx).1) (hone (.inr rfl))
  unfold ofBundle
  simp only [hkey, hpublic, hcertificate, Findings.normalised_of_repeats h hg,
    Findings.errors_of_repeats h]
  cases (Findings.ofBundle g s b).keyFile <;> rfl

theorem ModuleGraph.generate_of_repeats (tree : FileTree) :
    g'.generate b s tree = (g.generate b s tree).map
      (·.listing (again.flatMap fun e => (Findings.note g s b e).errors)) := by
  unfold generate planOf
  rw [Collection.ofBundle_of_repeats h hg hd]
  cases b.selection with
  | error e => rfl
  | ok selection =>
    cases Collection.ofBundle g b s with
    | error e => rfl
    | ok c =>
      simp only [Except.map, Except.mapError, bind, Except.bind, BundleModule.plan_listing]
      rcases b.plan c s tree with (e | e) | plan <;> rfl

end Repeats

namespace Annotation

variable {g g' : ModuleGraph} {b : BundleModule} {bs : List BundleModule} {e : Edge}
  {es again : List Edge} {a : Annotation}

theorem not_bundle_of_enters (h : enters g e = true) :
    ∃ n, g.node? e.child = some n ∧ ∀ x, n.kind ≠ .bundle x := by
  obtain ⟨n, hn, hv⟩ := ModuleGraph.enters_iff.1 h
  exact ⟨n, hn, fun x hx => by simp [Node.hasBundleVariants, hx] at hv⟩

theorem obligations_visit_of_mem (h : enters g e = true → ⟨e.child, b.name⟩ ∈ a.obligations) :
    (visit g b a e).2.obligations = a.obligations := by
  unfold visit
  cases hn : g.node? e.child with
  | none => rfl
  | some n =>
    by_cases hv : n.hasBundleVariants = true
    · have ho := h ((enters_eq hn).trans hv)
      simp only [hv, ite_true, oblige]
      split <;> simp_all
    · simp only [hv, Bool.false_eq_true, ite_false]
      split <;> rfl

theorem foldl_visit_of_noted (ht : ∀ e ∈ es, ∀ p, Records g b e p → p ∈ a.table.entries)
    (ho : ∀ e ∈ es, enters g e = true → ⟨e.child, b.name⟩ ∈ a.obligations) :
    es.foldl (fun a e => (visit g b a e).2) a = a := by
  induction es with
  | nil => rfl
  | cons e es ih =>
    have hobligations := obligations_visit_of_mem (ho e List.mem_cons_self)
    have htable := table_visit_of_mem (ht e List.mem_cons_self)
    have hstep : (visit g b a e).2 = a := by
      cases hv : (visit g b a e).2
      simp_all
    rw [List.foldl_cons, hstep]
    exact ih (fun d hd => ht d (List.mem_cons_of_mem _ hd))
      fun d hd => ho d (List.mem_cons_of_mem _ hd)

theorem ofBundle_of_repeats (h : g.Repeats g' b again) : ofBundle g' b a = ofBundle g b a := by
  have hshown : ∀ e ∈ again, e ∈ g.shown b.id (enters g) := fun e he => by
    obtain ⟨hm, hs⟩ := List.mem_filter.1 (h.mem e he)
    exact ModuleGraph.mem_shown_iff.2 ⟨hm, of_decide_eq_true hs ▸ .root⟩
  rw [ofBundle_eq_foldl g', enters_congr h.members, visit_congr h.members,
    h.shown_eq fun e => not_bundle_of_enters, List.foldl_append, ← ofBundle_eq_foldl,
    foldl_visit_of_noted]
  · intro e he p hp
    rw [ofBundle_eq_foldl]
    exact (mem_table_foldl _).2 (.inr ⟨e, hshown e he, hp⟩)
  · intro e he henters
    exact mem_obligations_ofBundle.2 (.inr ⟨e, hshown e he, henters, rfl⟩)

theorem ofBundles_of_repeats (h : ∀ b ∈ bs, ∃ again, g.Repeats g' b again) :
    ofBundles g' bs a = ofBundles g bs a := by
  unfold ofBundles
  induction bs generalizing a with
  | nil => rfl
  | cons b bs ih =>
    obtain ⟨again, hb⟩ := h b List.mem_cons_self
    rw [List.foldl_cons, List.foldl_cons, ofBundle_of_repeats hb]
    exact ih fun c hc => h c (List.mem_cons_of_mem _ hc)

end Annotation

namespace ModuleGraph

variable {g g' : ModuleGraph} {bs : List BundleModule} {t : InstallTable}

theorem Filed.snd_propagate_of_repeats (hg : g.Filed) (hg' : g'.Filed)
    (h : ∀ b ∈ bs, ∃ again, g.Repeats g' b again) :
    (g'.propagate bs t).2 = (g.propagate bs t).2 := by
  have hnoted := Annotation.ofBundles_of_repeats (a := { table := t }) h
  refine Prod.ext (congrArg Annotation.table hnoted) ?_
  rw [hg.snd_propagate, hg'.snd_propagate, hnoted, variantsFor, variantsFor,
    hg.settled.obligedNames_eq, hg'.settled.obligedNames_eq]

theorem Filed.propagate_of_mem (hg : g.Filed)
    (h : ∀ v ∈ (g.propagate bs t).2.2, v ∈ g.variants) : (g.propagate bs t).1 = g := by
  refine hg.createAll_of_mem fun p hp name hname => h _ ?_
  exact hg.snd_createAll ▸ List.mem_flatMap.2 ⟨p, hp, List.mem_map_of_mem hname⟩

theorem Filed.mem_of_mem_propagate (hg : g.Filed) {v : Variant}
    (h : v ∈ (g.propagate bs t).2.2) : v ∈ (g.propagate bs t).1.variants := by
  rw [hg.snd_propagate, List.mem_append] at h
  exact hg.mem_variants_propagate_iff.2 (.inr h)

end ModuleGraph

end BundleWright
