import BundleWright.Assembly
import BundleWright.Proofs.Workspace
/-!
What adding the edges of bundles does. Main statement: every request of a bundle becomes one edge or
one report, and the edges of several bundles do not mix.
-/
namespace BundleWright

section Lists

variable {α β : Type} {l : List α}

theorem filter_flatMap_eq {f : α → List β} {p : β → Bool} {q : α → Bool}
    (h : ∀ a ∈ l, (f a).filter p = if q a then f a else []) :
    (l.flatMap f).filter p = (l.filter q).flatMap f := by
  induction l with
  | nil => rfl
  | cons a l ih =>
    rw [List.flatMap_cons, List.filter_append, h a (by simp), ih fun b hb => h b (by simp [hb]),
      List.filter_cons]
    split <;> simp

theorem filter_key_eq_singleton [DecidableEq β] {f : α → β} (hn : (l.map f).Nodup) {a : α}
    (ha : a ∈ l) : l.filter (f · = f a) = [a] := by
  induction l with
  | nil => simp at ha
  | cons b l ih =>
    rw [List.map_cons, List.nodup_cons] at hn
    rcases List.mem_cons.1 ha with rfl | ha
    · have hrest : l.filter (f · = f a) = [] := by
        simp only [List.filter_eq_nil_iff, decide_eq_true_eq]
        exact fun c hc he => hn.1 (List.mem_map.2 ⟨c, hc, he⟩)
      simp [hrest]
    · have hne : f b ≠ f a := fun he => hn.1 (List.mem_map.2 ⟨a, ha, he.symm⟩)
      simp [hne, ih hn.2 ha]

end Lists

def BundleModule.allRequests (b : BundleModule) (s : Settings) : List Request :=
  b.requests s ++ match Bundle.given b.properties.key with
    | none => []
    | some key => ModuleGraph.wholeRequest .key key ::
        (b.properties.certificate.bind moduleReference?).toList.map
          (ModuleGraph.wholeRequest .certificate)

namespace Request

def edge? (g : ModuleGraph) (b : BundleModule) (r : Request) : Option Edge :=
  (g.find? r.name r.selector).map fun m => ⟨b.id, m.id, r.tag, g.keyOf b.id⟩

def report? (g : ModuleGraph) (b : BundleModule) (r : Request) : Option PropertyError :=
  match g.find? r.name r.selector with
  | none => some ⟨b.name, .undefinedModule r.tag r.name r.arch?⟩
  | some _ => none

variable {g g' : ModuleGraph} {b : BundleModule} {r : Request}

theorem edge?_congr (h : g'.members = g.members) : edge? g' b = edge? g b := by
  funext r
  rw [edge?, edge?, ModuleGraph.find?_congr h, ModuleGraph.keyOf_congr h]

theorem report?_congr (h : g'.members = g.members) : report? g' b = report? g b := by
  funext r
  rw [report?, report?, ModuleGraph.find?_congr h]

theorem length_filterMap_edge? (rs : List Request) :
    (rs.filterMap (edge? g b)).length + (rs.filterMap (report? g b)).length = rs.length := by
  induction rs with
  | nil => rfl
  | cons r rs ih =>
    cases hf : g.find? r.name r.selector with
    | none => simp [edge?, report?, hf] at ih ⊢; omega
    | some m => simp [edge?, report?, hf] at ih ⊢; omega

end Request

namespace ModuleGraph

variable (g : ModuleGraph) (b : BundleModule) (s : Settings)

def withEdges (es : List Edge) : ModuleGraph := { g with edges := g.edges ++ es }

@[simp] theorem members_withEdges (es : List Edge) : (g.withEdges es).members = g.members := rfl

theorem addRequest_eq (r : Request) :
    g.addRequest b r = (g.withEdges (r.edge? g b).toList, (r.report? g b).toList) := by
  unfold addRequest addDependencies Request.edge? Request.report?
  cases hf : g.find? r.name r.selector with
  | none => simp [hf, withEdges]
  | some m => simp [hf, withEdges]

theorem addRequests_eq (rs : List Request) :
    g.addRequests b rs =
      (g.withEdges (rs.filterMap (Request.edge? g b)), rs.filterMap (Request.report? g b)) := by
  induction rs generalizing g with
  | nil => simp [addRequests, withEdges]
  | cons r rs ih =>
    have hm : (g.withEdges (r.edge? g b).toList).members = g.members := rfl
    rw [addRequests, addRequest_eq]
    simp only [ih, Request.edge?_congr hm, Request.report?_congr hm]
    cases he : r.edge? g b <;> cases hr : r.report? g b <;> simp [he, hr, withEdges]

def bundleEdges : List Edge := (b.allRequests s).filterMap (Request.edge? g b)

def bundleReport : Except BundleError (List PropertyError) :=
  match Bundle.given b.properties.key with
  | none => .error ⟨b.name, .keyMissing⟩
  | some _ => .ok ((b.allRequests s).filterMap (Request.report? g b))

variable {g b s} in
theorem eq_of_bundleReport {reported : List PropertyError}
    (h : g.bundleReport b s = .ok reported) :
    reported = (b.allRequests s).filterMap (Request.report? g b) := by
  unfold bundleReport at h
  split at h
  · cases h
  · exact (Except.ok.inj h).symm

variable {g b s} in
theorem bundleEdges_congr {g' : ModuleGraph} (h : g'.members = g.members) :
    g'.bundleEdges b s = g.bundleEdges b s := by
  rw [bundleEdges, bundleEdges, Request.edge?_congr h]

theorem addBundleDependencies_eq :
    g.addBundleDependencies b s = (g.withEdges (g.bundleEdges b s), g.bundleReport b s) := by
  unfold addBundleDependencies bundleEdges bundleReport BundleModule.allRequests
  rw [addRequests_eq]
  cases hk : Bundle.given b.properties.key with
  | none => simp
  | some key =>
    have hm : (g.withEdges ((b.requests s).filterMap (Request.edge? g b))).members =
        g.members := rfl
    simp only [addRequests_eq, Request.edge?_congr hm, Request.report?_congr hm]
    simp [withEdges]

theorem addAllBundleDependencies_eq (bs : List BundleModule) :
    g.addAllBundleDependencies s bs =
      (g.withEdges (bs.flatMap (g.bundleEdges · s)), bs.map fun b => (b, g.bundleReport b s)) := by
  induction bs generalizing g with
  | nil => simp [addAllBundleDependencies, withEdges]
  | cons b bs ih =>
    have hedges (c : BundleModule) :
        (g.withEdges (g.bundleEdges b s)).bundleEdges c s = g.bundleEdges c s := by
      simp only [bundleEdges, Request.edge?_congr (members_withEdges ..)]
    have hreport (c : BundleModule) :
        (g.withEdges (g.bundleEdges b s)).bundleReport c s = g.bundleReport c s := by
      simp only [bundleReport, Request.report?_congr (members_withEdges ..)]
    rw [addAllBundleDependencies, addBundleDependencies_eq]
    simp only [ih, hedges, hreport]
    simp [withEdges]

end ModuleGraph

section Filed

variable {g : ModuleGraph} {b : BundleModule} {s : Settings} {bs : List BundleModule}

theorem Request.mem_edge?_iff {r : Request} {e : Edge} :
    r.edge? g b = some e ↔ ∃ m, g.find? r.name r.selector = some m ∧
      e = ⟨b.id, m.id, r.tag, g.keyOf b.id⟩ := by
  rw [Request.edge?, Option.map_eq_some_iff]
  exact exists_congr fun m => and_congr_right fun _ => eq_comm

namespace ModuleGraph

theorem parent_of_mem_bundleEdges {e : Edge} (h : e ∈ g.bundleEdges b s) :
    e.parent = b.id ∧ e.source = g.keyOf b.id := by
  obtain ⟨r, _, he⟩ := List.mem_filterMap.1 h
  obtain ⟨m, _, rfl⟩ := Request.mem_edge?_iff.1 he
  exact ⟨rfl, rfl⟩

theorem Settled.withBundleEdges (hg : g.Settled) :
    (g.withEdges (bs.flatMap (g.bundleEdges · s))).Settled := by
  refine hg.of_members_eq rfl fun e he => ?_
  rcases List.mem_append.1 he with he | he
  · exact hg.source_eq e he
  · obtain ⟨b, _, he⟩ := List.mem_flatMap.1 he
    obtain ⟨hp, hs⟩ := parent_of_mem_bundleEdges he
    rw [hp, hs, hg.keyOf_eq]

theorem filter_source_bundleEdges (hg : g.Settled) (c : BundleModule) (id : NodeKey) :
    (g.bundleEdges c s).filter (·.source = id) =
      if c.id = id then g.bundleEdges c s else [] := by
  have hs : ∀ e ∈ g.bundleEdges c s, e.source = c.id := fun e he => by
    rw [(parent_of_mem_bundleEdges he).2, hg.keyOf_eq]
  split
  · next h => simpa [← h] using hs
  · next h =>
    simp only [List.filter_eq_nil_iff, decide_eq_true_eq]
    exact fun e he => by rwa [hs e he]

theorem dependencies_withEdges_bundles (hg : g.Settled) (id : NodeKey) :
    (g.withEdges (bs.flatMap (g.bundleEdges · s))).dependencies id =
      g.dependencies id ++ (bs.filter (·.id = id)).flatMap (g.bundleEdges · s) := by
  have hown (c : BundleModule) (_ : c ∈ bs) : (g.bundleEdges c s).filter (·.source = id) =
      if decide (c.id = id) = true then g.bundleEdges c s else [] := by
    simpa using filter_source_bundleEdges hg c id
  simp only [dependencies, hg.withBundleEdges.keyOf_eq, hg.keyOf_eq]
  rw [withEdges, List.filter_append, filter_flatMap_eq hown]

/-- A bundle has the edges it asked for, whatever other bundles ask for. -/
theorem dependencies_withBundleEdges (hg : g.Settled) (hn : (bs.map (·.id)).Nodup) (hb : b ∈ bs)
    (hf : g.dependencies b.id = []) :
    (g.withEdges (bs.flatMap (g.bundleEdges · s))).dependencies b.id = g.bundleEdges b s := by
  rw [dependencies_withEdges_bundles hg, hf, filter_key_eq_singleton hn hb]
  simp

end ModuleGraph

end Filed

end BundleWright
