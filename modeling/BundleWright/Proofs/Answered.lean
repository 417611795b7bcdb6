import BundleWright.Proofs.Assembly
import BundleWright.Proofs.Requests
/-!
What becomes of the requests of a bundle. Main statement: a bundle with a plan has an answer to each
of them, a file of the plan, its key, its certificate, or an error that names the module.
-/
namespace BundleWright

/-- What must have become of a request. A module that no node stands for and a node that the
property does not accept are reported; a translated executable is passed over; any other request
is met. -/
def Request.Answered (r : Request) (g : ModuleGraph) (b : BundleModule) (s : Settings)
    (c : Collection) (errors : List PropertyError) : Prop :=
  match g.find? r.name r.selector with
  | none => ⟨b.name, .undefinedModule r.tag r.name r.arch?⟩ ∈ errors
  | some m =>
    match r.tag, m.node.kind with
    | .sharedLib, .library l => l.outputFile ∈ c.files.map (·.builtFile)
    | .executable, .binary x =>
      if m.node.target.native then x.outputFile ∈ c.files.map (·.builtFile)
      else ∀ found, Findings.visit g s b found ⟨b.id, m.id, r.tag, b.id⟩ = (true, found)
    | .executable, .script x => x.outputFile ∈ c.files.map (·.builtFile)
    | .javaLib, .java j =>
      match j.dexJar with
      | some jar => jar ∈ c.files.map (·.builtFile)
      | none => ⟨b.name, .notCompiled r.name⟩ ∈ errors
    | .prebuilt, .prebuilt p => p.outputFile ∈ c.files.map (·.builtFile)
    | .key, .key k => c.keyFile = k.privateKeyFile
    | .certificate, .certificate x => c.certificate = some x
    | tag, _ => ⟨b.name, .wrongKind tag r.name⟩ ∈ errors

namespace Findings

variable {g : ModuleGraph} {s : Settings} {b : BundleModule} {e : Edge} {n : Node}

theorem mem_errors_ofBundle {x : PropertyError} :
    x ∈ (ofBundle g s b).errors ↔ ∃ e ∈ edges g s b, x ∈ (note g s b e).errors := by
  rw [ofBundle_eq, errors_foldl_append]
  simp only [List.nil_append, List.flatMap_map, List.mem_flatMap]

theorem mem_errors_of_direct (hg : g.Settled) (he : e ∈ g.dependencies b.id)
    (hn : g.node? e.child = some n) {x : PropertyError}
    (hx : x ∈ (direct s b {} e.tag n).2.errors) : x ∈ (ofBundle g s b).errors := by
  have hp := (hg.mem_dependencies_iff.1 he).2
  refine mem_errors_ofBundle.2 ⟨e, mem_edges_of_mem_dependencies hg s he, ?_⟩
  rwa [note, visit_direct s hp hn]

end Findings

theorem ModuleGraph.eq_of_mem_bundleEdges {g : ModuleGraph} {b : BundleModule} {s : Settings}
    {e e' : Edge} (h : e ∈ g.bundleEdges b s) (h' : e' ∈ g.bundleEdges b s)
    (hf : e.tag = .key ∨ e.tag = .certificate) (ht : e'.tag = e.tag) : e' = e := by
  obtain ⟨r, hr, he⟩ := List.mem_filterMap.1 h
  obtain ⟨r', hr', he'⟩ := List.mem_filterMap.1 h'
  have htag {q : Request} {d : Edge} (hq : q.edge? g b = some d) : q.tag = d.tag := by
    obtain ⟨m, _, rfl⟩ := Request.mem_edge?_iff.1 hq
    rfl
  have hone : r' = r := by
    refine BundleModule.eq_of_tag_eq hr hr' ?_ (by rw [htag he, htag he', ht])
    rcases hf with hf | hf <;> simp [Request.IsForFile, htag he, hf]
  subst hone
  rw [he, Option.some.injEq] at he'
  exact he'.symm

section Answers

variable {g : ModuleGraph} {b : BundleModule} {s : Settings} {c : Collection}
  {errors : List PropertyError} {r : Request}

/-- In a settled graph that holds the edges of a bundle, each request of the bundle is answered. -/
theorem Request.answered_of_collected (hg : g.Settled)
    (hd : g.dependencies b.id = g.bundleEdges b s)
    (hfits : ∀ m ∈ g.members, m.node.Fits b.setsSystemApart)
    (hc : Collection.ofBundle g b s = .ok c)
    (hreport : ∀ x ∈ (b.allRequests s).filterMap (Request.report? g b), x ∈ errors)
    (herrors : ∀ x ∈ c.errors, x ∈ errors) (hr : r ∈ b.allRequests s) :
    r.Answered g b s c errors := by
  obtain ⟨hkey, hceq⟩ := Collection.ofBundle_eq_ok hc
  unfold Answered
  cases hf : g.find? r.name r.selector with
  | none => exact hreport _ (List.mem_filterMap.2 ⟨r, hr, by simp [Request.report?, hf]⟩)
  | some m =>
    obtain ⟨hm, hname, _⟩ := ModuleGraph.find?_name hf
    have he : (⟨b.id, m.id, r.tag, b.id⟩ : Edge) ∈ g.dependencies b.id := by
      rw [hd]
      refine List.mem_filterMap.2 ⟨r, hr, ?_⟩
      simp [Request.edge?, hf, hg.keyOf_eq]
    have hn : g.node? m.id = some m.node := hg.node?_eq hm
    have hnn : m.node.name = r.name := by rw [← hname, ← hg.key_eq m hm]; rfl
    have hfit := hfits m hm
    have hfile {p : Path} (h : Brings r.tag m.node p) : p ∈ c.files.map (·.builtFile) :=
      Collection.mem_builtFiles_of_brings hc he (hg.mem_dependencies_iff.1 he).2 hn h hfit
    have herr {x : PropertyError} (h : x ∈ (Findings.direct s b {} r.tag m.node).2.errors) :
        x ∈ errors := by
      refine herrors x ?_
      rw [hceq]
      exact Findings.mem_errors_of_direct hg he hn h
    have hone (d : Edge) (hd' : d ∈ g.dependencies b.id)
        (hf : r.tag = .key ∨ r.tag = .certificate) (ht : d.tag = r.tag) :
        d = ⟨b.id, m.id, r.tag, b.id⟩ :=
      ModuleGraph.eq_of_mem_bundleEdges (hd ▸ he) (hd ▸ hd') hf ht
    simp only
    split
    · next l ht hk => exact hfile (ht ▸ .library hk)
    · next x ht hk =>
      split
      · next hnat => exact hfile (ht ▸ .binary hk hnat)
      · next hnat =>
        intro found
        rw [Findings.visit_direct s rfl hn, ht,
          Findings.direct_translated found hk (Bool.not_eq_true _ ▸ hnat)]
    · next x ht hk => exact hfile (ht ▸ .script hk)
    · next j ht hk =>
      split
      · next jar hj => exact hfile (ht ▸ .java hk hj)
      · next hj =>
        refine herr ?_
        rw [ht, Findings.direct_uncompiled _ hk hj, hnn]
        simp [Findings.report]
    · next p ht hk => exact hfile (ht ▸ .prebuilt hk)
    · next k ht hk =>
      have hx : (Findings.direct s b {} r.tag m.node).2.keyFile = some k.privateKeyFile :=
        Findings.keyFile_direct.2 ⟨ht, k, hk, rfl⟩
      have hfound := Findings.decidedLast_keyFile.eq_direct s hg he hn fun d hd' m' y hy =>
        hone d hd' (.inl ht) ((Findings.keyFile_direct.1 hy).1.trans ht.symm)
      rw [hkey, hx] at hfound
      exact Option.some.inj hfound
    · next x ht hk =>
      have hx : (Findings.direct s b {} r.tag m.node).2.certificate = some x :=
        Findings.certificate_direct.2 ⟨ht, hk⟩
      have hfound := Findings.decidedLast_certificate.eq_direct s hg he hn fun d hd' m' y hy =>
        hone d hd' (.inr ht) ((Findings.certificate_direct.1 hy).1.trans ht.symm)
      rw [hceq]
      exact hfound.trans hx
    · refine herr ?_
      have hdep := BundleModule.tag_ne_moduleDep hr
      clear hceq
      unfold Findings.direct
      split
      all_goals simp_all [Findings.report]

end Answers

namespace Workspace

variable {s : Settings} {w w' : Workspace} {tree : FileTree} {names : List String} {a : Assembly}
  {o : Outcome} {plan : Plan}

theorem answered_of_outcome (hs : w.Sound) (ha : w.assemble s tree names = (w', .ok a))
    (ho : o ∈ a.outcomes) (hp : o.result = .ok plan) :
    ∃ c reported, Collection.ofBundle w'.graph o.bundle s = .ok c ∧
      o.bundle.plan c s tree = .ok plan ∧ w.graph.bundleReport o.bundle s = .ok reported ∧
      ∀ r ∈ o.bundle.allRequests s, r.Answered w'.graph o.bundle s c o.errors := by
  have hg := assembled_of_assemble hs ha
  obtain ⟨hb, reported, c, hr, hc, hplan, hreported, hcollected⟩ := exists_of_outcome hs ha ho hp
  refine ⟨c, reported, hc, hplan, hr, fun r hmem => ?_⟩
  refine Request.answered_of_collected hg.settled ?_ ?_ hc ?_ hcollected hmem
  · rw [hg.dependencies _ hb, ModuleGraph.bundleEdges_congr hg.members]
  · rw [hg.members]
    exact fun m hm => hs.fits m hm _
  · rwa [Request.report?_congr hg.members, ← ModuleGraph.eq_of_bundleReport hr]

/-- No request of a bundle with a plan is lost. Each is answered by the plan and the outcome, and
each has become an edge or a report of its own. -/
theorem requests_answered {doc : Datum} {ds : List Declaration} {s₀ s : Settings} {dir : Path}
    {w w' : Workspace} {tree : FileTree} {names : List String} {a : Assembly} {o : Outcome}
    {plan : Plan} (hd : Declaration.readDocument doc = .sound ds)
    (hw : ofDeclarations ds s₀ dir = .ok w) (ha : w.assemble s tree names = (w', .ok a))
    (ho : o ∈ a.outcomes) (hp : o.result = .ok plan) :
    ∃ c reported, Collection.ofBundle w'.graph o.bundle s = .ok c ∧ plan.files = c.files ∧
      (∀ r ∈ o.bundle.allRequests s, r.Answered w'.graph o.bundle s c o.errors) ∧
      (o.bundle, .ok reported) ∈ (w.graph.addAllBundleDependencies s w.bundles).2 ∧
      w.graph.dependencies o.bundle.id = [] ∧
      (w'.graph.dependencies o.bundle.id).length + reported.length =
        (o.bundle.allRequests s).length := by
  have hs := sound_of_ofDeclarations (Declaration.keeps_of_readDocument hd) hw
  have hg := assembled_of_assemble hs ha
  have hb := (exists_of_outcome hs ha ho hp).1
  obtain ⟨c, reported, hc, hplan, hr, hanswered⟩ := answered_of_outcome hs ha ho hp
  refine ⟨c, reported, hc, (BundleModule.plan_eq_ok hplan).1, hanswered, ?_, hs.fresh _ hb, ?_⟩
  · rw [ModuleGraph.addAllBundleDependencies_eq]
    exact List.mem_map.2 ⟨_, hb, by rw [hr]⟩
  · rw [hg.dependencies _ hb, ModuleGraph.eq_of_bundleReport hr, ModuleGraph.bundleEdges,
      Request.length_filterMap_edge?]

theorem requests_answered_sharedStem :
    ∃ ds w w' a o plan c, Declaration.readDocument sharedStem = .sound ds ∧
      ofDeclarations ds sharedStemSettings .here = .ok w ∧
      w.assemble sharedStemSettings {} [] = (w', .ok a) ∧ o ∈ a.outcomes ∧ o.result = .ok plan ∧
      ∀ r ∈ o.bundle.allRequests sharedStemSettings,
        r.Answered w'.graph o.bundle sharedStemSettings c o.errors := by
  obtain ⟨o, ho, hok⟩ := exists_outcome_sharedStem
  obtain ⟨ds, w, w', a, hd, hw, ha, ho⟩ := exists_of_mem_outcomesOf ho
  obtain ⟨plan, hp⟩ := o.exists_of_ok hok
  obtain ⟨c, _, _, _, hans, _⟩ := requests_answered hd hw ha ho hp
  exact ⟨ds, w, w', a, o, plan, c, hd, hw, ha, ho, hp, hans⟩

end Workspace

end BundleWright
