import BundleWright.Proofs.DeclarationOrder
import BundleWright.Proofs.Repetition
import BundleWright.Proofs.Selection
/-!
Assembling again. Main statement: every further run has the outcomes, the table and the variants of
the first one and makes no variant, except that a plan lists the problems of the direct dependencies
once more for every run before.
-/
namespace BundleWright

section Lists

variable {ε α β : Type}

theorem flatMap_flatten_replicate (n : Nat) (l : List α) (f : α → List β) :
    (List.replicate n l).flatten.flatMap f = (List.replicate n (l.flatMap f)).flatten := by
  induction n with
  | zero => rfl
  | succ n ih =>
    rw [List.replicate_succ, List.flatten_cons, List.flatMap_append, ih, List.replicate_succ,
      List.flatten_cons]

theorem flatten_replicate_eq_nil_iff {n : Nat} {l : List α} :
    (List.replicate n l).flatten = [] ↔ n = 0 ∨ l = [] := by
  rw [List.flatten_eq_nil_iff]
  cases n with
  | zero => simp
  | succ n => simp

theorem mapM_eq_map {f f' : α → Except ε β} {k : β → β} {l : List α}
    (h : ∀ a ∈ l, f' a = (f a).map k) : l.mapM f' = (l.mapM f).map (List.map k) := by
  induction l with
  | nil => rfl
  | cons a l ih =>
    rw [List.mapM_cons, List.mapM_cons, h a List.mem_cons_self,
      ih fun b hb => h b (List.mem_cons_of_mem a hb)]
    cases f a with
    | error e => rfl
    | ok b => cases l.mapM f <;> rfl

end Lists

def BundleModule.directProblems (b : BundleModule) (g : ModuleGraph) (s : Settings) :
    List PropertyError :=
  (g.bundleEdges b s).flatMap fun e => (Findings.note g s b e).errors

def Assembly.listing (a : Assembly) (more : BundleModule → List PropertyError) : Assembly :=
  { a with outcomes := a.outcomes.map fun o => o.listing (more o.bundle) }

namespace Workspace

variable {w w' : Workspace} {s : Settings} {tree : FileTree} {names : List String} {times : Nat}
  {b : BundleModule} {selected : List BundleModule} {runs : List (List String)}

def wiredTimes (w : Workspace) (s : Settings) (times : Nat) : ModuleGraph :=
  w.graph.withEdges ((List.replicate times w.bundles).flatten.flatMap (w.graph.bundleEdges · s))

theorem dependencies_wiredTimes (hw : w.Sound) (times : Nat) (id : NodeKey) :
    (w.wiredTimes s times).dependencies id = w.graph.dependencies id ++
      (List.replicate times ((w.bundles.filter (·.id = id)).flatMap
        (w.graph.bundleEdges · s))).flatten := by
  rw [wiredTimes, ModuleGraph.dependencies_withEdges_bundles hw.settled, List.filter_flatten,
    List.map_replicate, flatMap_flatten_replicate]

theorem dependencies_wired (hw : w.Sound) (hb : b ∈ w.bundles) :
    (w.wired s).dependencies b.id = w.graph.bundleEdges b s :=
  ModuleGraph.dependencies_withBundleEdges hw.settled hw.nodup_ids hb (hw.fresh b hb)

theorem repeats_wiredTimes (hw : w.Sound) (hb : b ∈ w.bundles) (times : Nat) :
    (w.wired s).Repeats (w.wiredTimes s (times + 1)) b
      (List.replicate times (w.graph.bundleEdges b s)).flatten where
  members := rfl
  root := by
    rw [dependencies_wired hw hb, dependencies_wiredTimes hw, hw.fresh b hb,
      filter_key_eq_singleton hw.nodup_ids hb, List.flatMap_singleton, List.replicate_succ]
    rfl
  mem e he := by
    obtain ⟨l, hl, he⟩ := List.mem_flatten.1 he
    rw [dependencies_wired hw hb, ← List.eq_of_mem_replicate hl]
    exact he
  below id n hn hk := by
    have hnone : w.bundles.filter (·.id = id) = [] := by
      simp only [List.filter_eq_nil_iff, decide_eq_true_eq]
      rintro c hc rfl
      rw [node?_wired, hw.bundles c hc] at hn
      exact hk c.node (congrArg Node.kind (Option.some.inj hn).symm)
    rw [dependencies_wiredTimes hw, wired, ModuleGraph.dependencies_withEdges_bundles hw.settled,
      hnone]
    simp

/-- What a workspace is after so many runs: the same bundles and nodes, the edges of the bundles
once for every run, and the variants that one run asks for. -/
structure AssembledTimes (w : Workspace) (s : Settings) (times : Nat) (w' : Workspace) :
    Prop where
  bundles : w'.bundles = w.bundles
  members : w'.graph.members = w.graph.members
  edges : w'.graph.edges = (w.wiredTimes s times).edges
  source_eq : ∀ v ∈ w'.graph.variants, v.source = v.node
  variants : 0 < times → ∀ v ∈ ((w.wired s).propagate w.bundles {}).2.2, v ∈ w'.graph.variants

namespace AssembledTimes

theorem start (hw : w.Sound) (s : Settings) : w.AssembledTimes s 0 w where
  bundles := rfl
  members := rfl
  edges := by simp [wiredTimes, ModuleGraph.withEdges]
  source_eq := by simp [hw.variants]
  variants h := absurd h (Nat.lt_irrefl 0)

section

variable (h : w.AssembledTimes s times w')
include h

theorem select_eq (names : List String) : w'.select names = w.select names := by
  have hbundle : w'.bundle = w.bundle := by
    funext name
    rw [bundle, bundle, bundle?, bundle?, h.bundles]
  rw [select, select, h.bundles, hbundle]

theorem reports_eq : w'.reports s = w.reports s := by
  simp only [reports, h.bundles, ModuleGraph.bundleReport, Request.report?_congr h.members]

theorem edges_wired : (w'.wired s).edges = (w.wiredTimes s (times + 1)).edges := by
  have hbundles : (w'.graph.bundleEdges · s) = (w.graph.bundleEdges · s) :=
    funext fun _ => ModuleGraph.bundleEdges_congr h.members
  rw [wired, ModuleGraph.withEdges, h.edges, h.bundles, hbundles, wiredTimes, wiredTimes,
    List.replicate_succ', List.flatten_append, List.flatMap_append]
  simp [ModuleGraph.withEdges]

variable (hw : w.Sound)
include hw

theorem repeats (hb : b ∈ w.bundles) :
    (w.wired s).Repeats (w'.wired s) b
      (List.replicate times (w.graph.bundleEdges b s)).flatten := by
  have hr := repeats_wiredTimes (s := s) hw hb times
  have hm : (w'.wired s).members = (w.wiredTimes s (times + 1)).members := h.members
  have hd := ModuleGraph.dependencies_congr hm h.edges_wired
  exact ⟨h.members, by rw [hd, hr.root], hr.mem, fun id n hn hk => by rw [hd, hr.below id n hn hk]⟩

theorem filed_wired : (w'.wired s).Filed := by
  have hset : (w.wiredTimes s (times + 1)).Settled := hw.settled.withBundleEdges
  exact ⟨hset.of_members_eq h.members fun e he => hset.source_eq e (h.edges_wired ▸ he),
    h.source_eq⟩

theorem snd_propagate :
    ((w'.wired s).propagate w'.bundles {}).2 = ((w.wired s).propagate w.bundles {}).2 := by
  rw [h.bundles]
  exact (hw.filed_wired s).snd_propagate_of_repeats (h.filed_wired hw)
    fun b hb => ⟨_, h.repeats hw hb⟩

theorem step (hs : w'.select names = .ok selected) :
    w.AssembledTimes s (times + 1) (w'.assemble s tree names).1 := by
  obtain ⟨hm, he⟩ := (w'.wired s).propagate_frame w'.bundles {}
  rw [fst_assemble hs]
  refine ⟨h.bundles, hm.trans h.members, he.trans h.edges_wired,
    (h.filed_wired hw).propagate.source_eq, fun _ v hv => ?_⟩
  rw [← h.snd_propagate hw] at hv
  exact (h.filed_wired hw).mem_of_mem_propagate hv

theorem variants_assemble (hpos : 0 < times) :
    (w'.assemble s tree names).1.graph.variants = w'.graph.variants := by
  cases hs : w'.select names with
  | error e => rw [assemble, hs]
  | ok selected =>
    have hsame := (h.filed_wired hw).propagate_of_mem fun v hv => by
      rw [h.snd_propagate hw] at hv
      exact h.variants hpos v hv
    rw [fst_assemble hs, hsame]
    rfl

theorem generate_eq (hb : b ∈ w.bundles) (tree : FileTree) :
    (w'.wired s).generate b s tree = ((w.wired s).generate b s tree).map
      (·.listing (List.replicate times (b.directProblems w.graph s)).flatten) := by
  have hd : (w.wired s).dependencies b.id = (w.wired s).bundleEdges b s := by
    rw [dependencies_wired hw hb]
    exact (ModuleGraph.bundleEdges_congr rfl).symm
  have hnote : Findings.note (w.wired s) s b = Findings.note w.graph s b :=
    Findings.note_congr w.graph s b rfl
  rw [ModuleGraph.generate_of_repeats (h.repeats hw hb) (hw.filed_wired s).settled hd, hnote,
    flatMap_flatten_replicate]
  rfl

theorem outcome_eq (hb : b ∈ w.bundles) (tree : FileTree) (selected : List BundleModule) :
    outcome (w'.wired s) s tree (w'.reports s) selected b =
      (outcome (w.wired s) s tree (w.reports s) selected b).map fun o =>
        o.listing (List.replicate times (o.bundle.directProblems w.graph s)).flatten := by
  rw [h.reports_eq, Workspace.outcome_eq hw hb, Workspace.outcome_eq hw hb]
  cases w.graph.bundleReport b s with
  | error e => rfl
  | ok reported =>
    rw [outcomeOf, outcomeOf, h.generate_eq hw hb]
    cases ho : (w.wired s).generate b s tree with
    | error e => rfl
    | ok o =>
      obtain rfl : o.bundle = b := ModuleGraph.bundle_of_generate ho
      exact congrArg Except.ok (o.listing_errors ..).symm

/-- A run after others has what the first run has, and lists problems once more for each of
them. -/
theorem snd_assemble (tree : FileTree) (names : List String) :
    (w'.assemble s tree names).2 = (w.assemble s tree names).2.map
      (·.listing fun b => (List.replicate times (b.directProblems w.graph s)).flatten) := by
  cases hs : w.select names with
  | error e =>
    have hs' : w'.select names = .error e := (h.select_eq names).trans hs
    rw [assemble, assemble, hs, hs']
    rfl
  | ok selected =>
    have hs' : w'.select names = .ok selected := (h.select_eq names).trans hs
    rw [assemble_eq hs, assemble_eq hs', h.snd_propagate hw, outcomes, outcomes]
    split
    · rfl
    · rw [mapM_eq_map fun b hb => h.outcome_eq hw (mem_of_select hs hb) tree selected]
      cases selected.mapM (outcome (w.wired s) s tree (w.reports s) selected) <;> rfl

end

end AssembledTimes

def afterRuns (w : Workspace) (s : Settings) (tree : FileTree) (runs : List (List String)) :
    Workspace :=
  runs.foldl (fun w names => (w.assemble s tree names).1) w

theorem AssembledTimes.afterRuns (h : w.AssembledTimes s times w') (hw : w.Sound)
    (hknown : ∀ names ∈ runs, ∀ name ∈ names, ∃ b ∈ w.bundles, b.name = name) :
    w.AssembledTimes s (times + runs.length) (w'.afterRuns s tree runs) := by
  induction runs generalizing times w' with
  | nil => exact h
  | cons names runs ih =>
    obtain ⟨selected, hs⟩ := exists_selected hw (hknown names List.mem_cons_self)
    have hstep : w.AssembledTimes s (times + 1) (w'.assemble s tree names).1 :=
      h.step hw ((h.select_eq names).trans hs)
    rw [List.length_cons, Nat.add_comm runs.length, ← Nat.add_assoc]
    exact ih hstep fun later hl => hknown later (List.mem_cons_of_mem _ hl)

variable {doc : Datum} {ds : List Declaration} {s₀ : Settings} {dir : Path}

/-- A run after others ends as the first run would have ended, with the same table, the same
variants and the same outcomes but for one thing, and makes no variant. A plan, and the outcome with
it, lists the problems of the direct dependencies of its bundle once more for every run before: the
outcome is the same just when there are none, or the work on the bundle ended with an error. -/
theorem reassembly_relists (hd : Declaration.readDocument doc = .sound ds)
    (hw : ofDeclarations ds s₀ dir = .ok w) (s : Settings) (tree : FileTree)
    (runs : List (List String))
    (hknown : ∀ names ∈ runs, ∀ name ∈ names, ∃ b ∈ w.bundles, b.name = name)
    (names : List String) :
    ((w.afterRuns s tree runs).assemble s tree names).2 = (w.assemble s tree names).2.map
      (·.listing fun b => (List.replicate runs.length (b.directProblems w.graph s)).flatten) ∧
    (runs ≠ [] → ((w.afterRuns s tree runs).assemble s tree names).1.graph.variants =
      (w.afterRuns s tree runs).graph.variants) ∧
    ∀ o : Outcome,
      o.listing (List.replicate runs.length (o.bundle.directProblems w.graph s)).flatten = o ↔
        runs = [] ∨ o.bundle.directProblems w.graph s = [] ∨ ∃ e, o.result = .error e := by
  have hsound := sound_of_ofDeclarations (Declaration.keeps_of_readDocument hd) hw
  have hruns : w.AssembledTimes s runs.length (w.afterRuns s tree runs) := by
    rw [← Nat.zero_add runs.length]
    exact (AssembledTimes.start hsound s).afterRuns hsound hknown
  refine ⟨hruns.snd_assemble hsound tree names, fun hne => ?_, fun o => ?_⟩
  · exact hruns.variants_assemble hsound (List.length_pos_iff.2 hne)
  · rw [Outcome.listing_eq_iff, flatten_replicate_eq_nil_iff, List.length_eq_zero_iff, or_assoc]

theorem reassembly_relists_layered :
    ∃ ds w all a, Declaration.readDocument layered = .sound ds ∧
      ofDeclarations ds layeredSettings .here = .ok w ∧
      (∀ names ∈ [[]], ∀ name ∈ names, ∃ b ∈ w.bundles, b.name = name) ∧
      (w.assemble layeredSettings layeredTree []).2 = .ok all ∧
      ((w.assemble layeredSettings layeredTree []).1.assemble layeredSettings layeredTree []).2 =
        .ok a ∧
      (∃ o ∈ all.outcomes, o.ok = true) ∧ a.table = all.table ∧ a.variants = all.variants := by
  obtain ⟨ds, w, _, all, o, _, hd, hw, ha, ho, hok, _⟩ := exists_plan exists_outcome_layered
  have hknown : ∀ names ∈ [[]], ∀ name ∈ names, ∃ b ∈ w.bundles, b.name = name := by simp
  have hall := congrArg Prod.snd ha
  have hagain := (reassembly_relists hd hw layeredSettings layeredTree [[]] hknown []).1
  rw [hall] at hagain
  exact ⟨ds, w, all, _, hd, hw, hknown, hall, hagain, ⟨o, ho, hok⟩, rfl, rfl⟩

end Workspace

def uncompiled : Datum := .obj [("modules", .arr [
  .obj [("type", .str "apex_key"), ("name", .str "k"), ("public_key", .str "p"),
    ("private_key", .str "q")],
  .obj [("type", .str "java_library"), ("name", .str "j"), ("installable", .bool false)],
  .obj [("type", .str "apex"), ("name", .str "z"), ("key", .str "k"),
    ("java_libs", .arr [.str "j"]), ("payload_type", .str "zip")]])]

namespace Workspace

theorem directProblems_uncompiled {w : Workspace}
    (hw : ofDocument? uncompiled sharedStemSettings .here = some w) :
    w.bundles.length = 1 ∧
      ∀ b ∈ w.bundles, b.directProblems w.graph sharedStemSettings ≠ [] := by
  have h : ∀ w ∈ (ofDocument? uncompiled sharedStemSettings .here).toList,
      w.bundles.length = 1 ∧
        ∀ b ∈ w.bundles, b.directProblems w.graph sharedStemSettings ≠ [] := by
    decide +kernel
  exact h w (Option.mem_toList.2 hw)

/-- The second run tells the problem of the bundle twice. -/
theorem errors_doubled_uncompiled :
    ∃ ds w first second o o', Declaration.readDocument uncompiled = .sound ds ∧
      ofDeclarations ds sharedStemSettings .here = .ok w ∧
      (w.assemble sharedStemSettings {} []).2 = .ok first ∧
      ((w.assemble sharedStemSettings {} []).1.assemble sharedStemSettings {} []).2 = .ok second ∧
      first.outcomes = [o] ∧ second.outcomes = [o'] ∧ o'.bundle = o.bundle ∧ o' ≠ o := by
  obtain ⟨o, ho, hplanned⟩ : ∃ o ∈ outcomesOf uncompiled sharedStemSettings .here {},
      o.plan?.isSome = true := by decide +kernel
  obtain ⟨ds, w, w', first, hd, hw, ha, ho⟩ := exists_of_mem_outcomesOf ho
  obtain ⟨plan, hplan⟩ : ∃ plan, o.result = .ok plan := by
    cases hr : o.result with
    | error e => simp [Outcome.plan?, hr, Except.toOption] at hplanned
    | ok plan => exact ⟨plan, rfl⟩
  have hsound := sound_of_ofDeclarations (Declaration.keeps_of_readDocument hd) hw
  obtain ⟨hone, hproblems⟩ := directProblems_uncompiled (ofDocument?_eq_some.2 ⟨ds, hd, hw⟩)
  have hb := (exists_of_outcome hsound ha ho hplan).1
  have hfirst := congrArg Prod.snd ha
  have honce : w.AssembledTimes sharedStemSettings 1 (w.assemble sharedStemSettings {} []).1 :=
    (AssembledTimes.start hsound sharedStemSettings).step hsound rfl
  have hsecond := honce.snd_assemble hsound {} []
  rw [hfirst] at hsecond
  have houtcomes := outcomes_eq_singleton hfirst hone ho
  let more := (List.replicate 1 (o.bundle.directProblems w.graph sharedStemSettings)).flatten
  refine ⟨ds, w, first, _, o, o.listing more, hd, hw, hfirst, hsecond, houtcomes,
    congrArg (List.map _) houtcomes, o.bundle_listing more, fun he => ?_⟩
  rcases Outcome.listing_eq_iff.1 he with hnil | ⟨e, he⟩
  · exact (flatten_replicate_eq_nil_iff.1 hnil).elim (by simp) (hproblems o.bundle hb)
  · rw [hplan] at he
    cases he

end Workspace

end BundleWright
