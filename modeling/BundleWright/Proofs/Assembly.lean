import BundleWright.Proofs.Collection
import BundleWright.Proofs.Dependencies
/-!
What comes of a bundle. Main statements: assembling leaves a settled graph in which every bundle has
the edges it asked for, and a plan holds what was collected from that graph, its outcome what was
reported on the way.
-/
namespace BundleWright

section Results

variable {ε α β : Type} {f : α → Except ε β} {l : List α} {bs : List β}

theorem mapM_eq_ok_iff : l.mapM f = .ok bs ↔ l.map f = bs.map .ok := by
  induction l generalizing bs with
  | nil => cases bs <;> simp [pure, Except.pure]
  | cons a l ih =>
    rw [List.mapM_cons]
    cases bs with
    | nil => cases ha : f a <;> cases hl : l.mapM f <;> simp [bind, Except.bind, pure, Except.pure]
    | cons b bs =>
      rw [List.map_cons, List.map_cons, List.cons.injEq, ← ih]
      cases ha : f a <;> cases hl : l.mapM f <;> simp [bind, Except.bind, pure, Except.pure]

theorem exists_of_mem_mapM {b : β} (h : l.mapM f = .ok bs) (hb : b ∈ bs) :
    ∃ a ∈ l, f a = .ok b := by
  have hm : .ok b ∈ l.map f := mapM_eq_ok_iff.1 h ▸ List.mem_map_of_mem hb
  exact List.mem_map.1 hm

theorem exists_of_mapM_eq_error {e : ε} (h : l.mapM f = .error e) : ∃ a ∈ l, f a = .error e := by
  induction l with
  | nil => cases h
  | cons a l ih =>
    rw [List.mapM_cons] at h
    cases ha : f a with
    | error e' =>
      rw [ha] at h
      cases h
      exact ⟨a, by simp, ha⟩
    | ok b =>
      cases hl : l.mapM f with
      | error e' =>
        simp only [ha, hl, bind, Except.bind] at h
        cases h
        obtain ⟨c, hc, hfc⟩ := ih hl
        exact ⟨c, by simp [hc], hfc⟩
      | ok cs =>
        simp only [ha, hl, bind, Except.bind] at h
        cases h

theorem eq_of_map_ok_eq {cs : List β} (h : (bs.map .ok : List (Except ε β)) = cs.map .ok) :
    bs = cs :=
  (List.map_inj_right fun _ _ => Except.ok.inj).1 h

theorem map_eq_of_map_ok {γ : Type} {g : α → γ} {k : β → γ} (h : l.map f = bs.map .ok)
    (hk : ∀ a b, f a = .ok b → k b = g a) : bs.map k = l.map g := by
  induction l generalizing bs with
  | nil => cases bs <;> simp_all
  | cons a l ih =>
    cases bs with
    | nil => simp at h
    | cons b bs =>
      rw [List.map_cons, List.map_cons, List.cons.injEq] at h
      rw [List.map_cons, List.map_cons, hk a b h.1, ih h.2]

theorem filter_map_ok {p : α → Bool} {q : β → Bool} (h : l.map f = bs.map .ok)
    (hq : ∀ a b, f a = .ok b → q b = p a) : (l.filter p).map f = (bs.filter q).map .ok := by
  induction l generalizing bs with
  | nil => cases bs <;> simp_all
  | cons a l ih =>
    cases bs with
    | nil => simp at h
    | cons b bs =>
      rw [List.map_cons, List.map_cons, List.cons.injEq] at h
      rw [List.filter_cons, List.filter_cons, hq a b h.1]
      split <;> simp [h.1, ih h.2]

theorem eq_ok_of_toOption {ε α : Type} {x : Except ε α} {a : α} (h : x.toOption = some a) :
    x = .ok a := by
  cases x with
  | error e => cases h
  | ok b => exact congrArg Except.ok (Option.some.inj h)

theorem exists_of_toOption_isSome {ε α : Type} {x : Except ε α} (h : x.toOption.isSome = true) :
    ∃ a, x = .ok a :=
  (Option.isSome_iff_exists.1 h).imp fun _ => eq_ok_of_toOption

theorem Checked.mem_toExcept {α : Type} {x : Checked α} {a : α} (h : x = .sound a) :
    a ∈ x.toExcept.toOption.toList := by simp [h, toExcept, Except.toOption]

end Results

theorem exists_of_mapError_eq_ok {ε ε' α : Type} {x : Except ε α} {f : ε → ε'} {a : α}
    (h : x.mapError f = .ok a) : x = .ok a := by
  cases x with
  | error e => cases h
  | ok b => exact congrArg _ (Except.ok.inj h)

namespace BundleModule

variable {b : BundleModule} {c : Collection} {s : Settings} {tree : FileTree} {plan : Plan}

theorem plan_eq_ok (h : b.plan c s tree = .ok plan) :
    plan.files = c.files ∧ plan.errors = c.errors ∧ ∃ selection contexts,
      b.selection = .ok selection ∧
        plan.actions = (if selection.hasZip then b.planZip c (b.certificate c.certificate s) s
            else []) ++
          if selection.hasImage then
            b.planImage c (b.certificate c.certificate s) s contexts ++
              (b.planFlattened c.files s).1
          else [] := by
  obtain ⟨selection, hs, h⟩ := exists_of_bind_eq_ok h
  have hs := exists_of_mapError_eq_ok hs
  simp only at h
  split at h
  · next hi =>
    obtain ⟨contexts, _, h⟩ := exists_of_bind_eq_ok h
    cases h
    exact ⟨rfl, rfl, selection, contexts, hs, by simp [hi]⟩
  · next hi =>
    cases h
    exact ⟨rfl, rfl, selection, .here, hs, by simp [hi]⟩

end BundleModule

theorem ModuleGraph.generate_eq_ok {g : ModuleGraph} {b : BundleModule} {s : Settings}
    {tree : FileTree} {o : Outcome} {plan : Plan} (h : g.generate b s tree = .ok o)
    (hp : o.result = .ok plan) :
    o.bundle = b ∧ o.errors = plan.errors ∧
      ∃ c, Collection.ofBundle g b s = .ok c ∧ b.plan c s tree = .ok plan := by
  unfold generate at h
  split at h
  · next p hplan =>
    cases h
    cases hp
    obtain ⟨_, _, hplan⟩ := exists_of_bind_eq_ok hplan
    obtain ⟨c, hc, hplan⟩ := exists_of_bind_eq_ok hplan
    exact ⟨rfl, rfl, c, exists_of_mapError_eq_ok hc, hplan⟩
  · cases h
    cases hp
  · cases h

theorem ModuleGraph.bundle_of_generate {g : ModuleGraph} {b : BundleModule} {s : Settings}
    {tree : FileTree} {o : Outcome} (h : g.generate b s tree = .ok o) : o.bundle = b := by
  unfold generate at h
  split at h <;> cases h <;> rfl

theorem Outcome.exists_of_ok {o : Outcome} (h : o.ok = true) : ∃ plan, o.result = .ok plan := by
  cases hr : o.result with
  | error e => simp [Outcome.ok, fatal?, hr] at h
  | ok plan => exact ⟨plan, rfl⟩

namespace Workspace

variable {w w' : Workspace} {s : Settings} {tree : FileTree} {names : List String} {a : Assembly}
  {o : Outcome} {plan : Plan} {b : BundleModule}

theorem mem_of_select {selected : List BundleModule} (h : w.select names = .ok selected)
    (hb : b ∈ selected) : b ∈ w.bundles := by
  unfold select at h
  split at h
  · cases h
    exact hb
  · obtain ⟨name, _, hf⟩ := exists_of_mem_mapM h hb
    unfold bundle at hf
    split at hf
    · next c hc =>
      cases hf
      exact List.mem_of_find?_eq_some hc
    · cases hf

namespace Sound

theorem key_eq (hw : w.Sound) (hb : b ∈ w.bundles) : b.toNode.key = b.id :=
  hw.settled.key_of_node? (hw.bundles b hb)

theorem nodup_ids (hw : w.Sound) : (w.bundles.map (·.id)).Nodup := by
  have hn : ((w.bundles.map (·.id)).map (·.name)).Nodup := by
    have he : (w.bundles.map (·.id)).map (·.name) = w.bundles.map (·.name) := by
      rw [List.map_map]
      exact List.map_congr_left fun b hb => by rw [Function.comp_apply, ← hw.key_eq hb]; rfl
    rw [he]
    exact hw.names
  exact List.Pairwise.of_map NodeKey.name (fun _ _ hne he => hne (congrArg _ he)) hn

end Sound

/-- What assembling makes of a workspace: the same nodes, with the edges the bundles ask for. -/
structure Assembled (w : Workspace) (s : Settings) (w' : Workspace) : Prop where
  settled : w'.graph.Settled
  members : w'.graph.members = w.graph.members
  edges : w'.graph.edges = w.graph.edges ++ w.bundles.flatMap (w.graph.bundleEdges · s)
  dependencies : ∀ b ∈ w.bundles, w'.graph.dependencies b.id = w.graph.bundleEdges b s

def reports (w : Workspace) (s : Settings) : EdgeReports :=
  w.bundles.map fun b => (b, w.graph.bundleReport b s)

theorem assemble_eq_ok (h : w.assemble s tree names = (w', .ok a)) :
    ∃ selected, w.select names = .ok selected ∧
      w'.graph = ((w.graph.withEdges (w.bundles.flatMap (w.graph.bundleEdges · s))).propagate
        w.bundles {}).1 ∧
      outcomes w'.graph s tree (w.reports s) selected = .ok a.outcomes := by
  unfold assemble at h
  split at h
  · simp at h
  · next selected hs =>
    rw [ModuleGraph.addAllBundleDependencies_eq] at h
    simp only [Prod.mk.injEq] at h
    obtain ⟨rfl, h⟩ := h
    obtain ⟨os, hos, rfl⟩ := exists_of_map_eq_ok h
    exact ⟨selected, hs, rfl, hos⟩

/-- The assembled graph is the one with the edges of the bundles, apart from its variants. -/
theorem frame_of_assemble (h : w.assemble s tree names = (w', .ok a)) :
    w'.graph.members = (w.graph.addAllBundleDependencies s w.bundles).1.members ∧
      w'.graph.edges = (w.graph.addAllBundleDependencies s w.bundles).1.edges := by
  obtain ⟨_, _, hg, _⟩ := assemble_eq_ok h
  rw [ModuleGraph.addAllBundleDependencies_eq, hg]
  exact ModuleGraph.propagate_frame _ w.bundles {}

theorem findings_of_assemble (h : w.assemble s tree names = (w', .ok a)) (b : BundleModule) :
    Findings.ofBundle w'.graph s b =
      Findings.ofBundle (w.graph.addAllBundleDependencies s w.bundles).1 s b := by
  obtain ⟨hm, he⟩ := frame_of_assemble h
  exact Findings.ofBundle_congr _ s b hm he

theorem assembled_of_assemble (hw : w.Sound) (h : w.assemble s tree names = (w', .ok a)) :
    w.Assembled s w' := by
  obtain ⟨_, _, hg, _⟩ := assemble_eq_ok h
  have hset : (w.graph.withEdges (w.bundles.flatMap (w.graph.bundleEdges · s))).Settled :=
    hw.settled.withBundleEdges
  obtain ⟨hm, he⟩ := ModuleGraph.propagate_frame _ w.bundles {}
  rw [← hg] at hm he
  refine ⟨hset.of_members_eq hm fun e hme => hset.source_eq e (he ▸ hme), hm, he,
    fun b hb => ?_⟩
  have hd := ModuleGraph.dependencies_withBundleEdges (s := s) hw.settled hw.nodup_ids hb
    (hw.fresh b hb)
  rw [← hd, ModuleGraph.dependencies_congr hm he]

theorem lookup_name {β : Type} {bs : List BundleModule} (hn : (bs.map (·.name)).Nodup)
    (hb : b ∈ bs) (f : BundleModule → Option β) :
    (bs.filterMap fun c => (f c).map (c.name, ·)).lookup b.name = f b := by
  induction bs with
  | nil => simp at hb
  | cons c cs ih =>
    rw [List.map_cons, List.nodup_cons] at hn
    rcases List.mem_cons.1 hb with rfl | hb
    · cases hf : f b with
      | some x => simp [hf]
      | none =>
        simp only [List.filterMap_cons, hf, Option.map_none, List.lookup_eq_none_iff,
          List.mem_filterMap, Option.map_eq_some_iff]
        rintro _ ⟨d, hd, _, _, rfl⟩
        have hne : b.name ≠ d.name := fun he => hn.1 (List.mem_map.2 ⟨d, hd, he.symm⟩)
        simpa using hne
    · have hne : b.name ≠ c.name := fun he => hn.1 (List.mem_map.2 ⟨b, hb, he⟩)
      cases hf : f c <;> simp [hf, List.lookup_cons, beq_false_of_ne hne, ih hn.2 hb]

def outcomeOf (g : ModuleGraph) (s : Settings) (tree : FileTree) (times : Nat) (b : BundleModule) :
    Except BundleError (List PropertyError) → Except FileError Outcome
  | .error e => .ok { bundle := b, result := .error e }
  | .ok reported => (g.generate b s tree).map fun o =>
    { o with errors := (List.replicate times reported).flatten ++ o.errors }

theorem outcome_eq (hw : w.Sound) (hb : b ∈ w.bundles) (g : ModuleGraph)
    (selected : List BundleModule) :
    outcome g s tree (w.reports s) selected b =
      outcomeOf g s tree (selected.countP (·.name = b.name)) b (w.graph.bundleReport b s) := by
  have hfatal : (w.reports s).fatal.lookup b.name = match w.graph.bundleReport b s with
      | .error e => some e
      | .ok _ => none := by
    rw [← lookup_name hw.names hb fun b => match w.graph.bundleReport b s with
      | .error e => some e
      | .ok _ => none, EdgeReports.fatal, reports, List.filterMap_map]
    congr 2
    funext c
    cases hc : w.graph.bundleReport c s <;> simp [hc]
  have hreported : (w.reports s).reported.lookup b.name =
      (w.graph.bundleReport b s).toOption := by
    rw [← lookup_name hw.names hb fun b => (w.graph.bundleReport b s).toOption,
      EdgeReports.reported, reports, List.filterMap_map]
    rfl
  rw [outcome, hfatal, hreported]
  cases hr : w.graph.bundleReport b s <;> rfl

theorem bundle_of_outcome {g : ModuleGraph} {reports : EdgeReports}
    {selected : List BundleModule}
    (h : outcome g s tree reports selected b = .ok o) : o.bundle = b := by
  unfold outcome at h
  split at h
  · cases h
    rfl
  · obtain ⟨o', ho, rfl⟩ := exists_of_map_eq_ok h
    exact (ModuleGraph.bundle_of_generate ho : o'.bundle = b)

theorem exists_of_outcome (hw : w.Sound) (h : w.assemble s tree names = (w', .ok a))
    (ho : o ∈ a.outcomes) (hp : o.result = .ok plan) :
    o.bundle ∈ w.bundles ∧ ∃ reported c, w.graph.bundleReport o.bundle s = .ok reported ∧
      Collection.ofBundle w'.graph o.bundle s = .ok c ∧ o.bundle.plan c s tree = .ok plan ∧
      (∀ e ∈ reported, e ∈ o.errors) ∧ ∀ e ∈ c.errors, e ∈ o.errors := by
  obtain ⟨selected, hsel, _, hos⟩ := assemble_eq_ok h
  unfold outcomes at hos
  split at hos
  · cases hos
  · obtain ⟨b, hb, hout⟩ := exists_of_mem_mapM (exists_of_mapError_eq_ok hos) ho
    have hmem := mem_of_select hsel hb
    rw [outcome_eq hw hmem] at hout
    cases hr : w.graph.bundleReport b s with
    | error e =>
      simp only [outcomeOf, hr] at hout
      cases hout
      cases hp
    | ok reported =>
      simp only [outcomeOf, hr] at hout
      obtain ⟨o', hgen, rfl⟩ := exists_of_map_eq_ok hout
      obtain ⟨rfl, herr, c, hc, hplan⟩ := ModuleGraph.generate_eq_ok hgen hp
      refine ⟨hmem, reported, c, hr, hc, hplan, fun e he => ?_, fun e he => ?_⟩
      · -- a bundle that is chosen is chosen at least once
        have hpos : 0 < selected.countP (·.name = o'.bundle.name) :=
          List.countP_pos_iff.2 ⟨_, hb, by simp⟩
        simp only [List.mem_append, List.mem_flatten, List.mem_replicate]
        exact .inl ⟨reported, ⟨by omega, rfl⟩, he⟩
      · refine List.mem_append_right _ ?_
        rw [herr, (BundleModule.plan_eq_ok hplan).2.1]
        exact he

theorem outcomes_congr {g g' : ModuleGraph} (hm : g'.members = g.members)
    (he : g'.edges = g.edges) (reports : EdgeReports) (selected : List BundleModule) :
    outcomes g' s tree reports selected = outcomes g s tree reports selected := by
  have hg (b : BundleModule) : g'.generate b s tree = g.generate b s tree := by
    have hc : Collection.ofBundle g' b s = Collection.ofBundle g b s := by
      rw [Collection.ofBundle, Collection.ofBundle, Findings.ofBundle_congr g s b hm he]
    rw [ModuleGraph.generate, ModuleGraph.generate, ModuleGraph.planOf, ModuleGraph.planOf, hc]
  have ho : outcome g' s tree reports selected = outcome g s tree reports selected := by
    funext b
    rw [outcome, outcome, hg]
  rw [outcomes, outcomes, ho]

theorem exists_assemble {os : List Outcome}
    (h : outcomes (w.graph.addAllBundleDependencies s w.bundles).1 s tree
      (w.graph.addAllBundleDependencies s w.bundles).2 w.bundles = .ok os) :
    ∃ w' a, w.assemble s tree [] = (w', .ok a) ∧ a.outcomes = os := by
  obtain ⟨hm, he⟩ := ModuleGraph.propagate_frame
    (w.graph.addAllBundleDependencies s w.bundles).1 w.bundles {}
  rw [← outcomes_congr hm he] at h
  simp only [assemble, select, List.isEmpty_nil, ite_true, h, Except.map, Prod.mk.injEq]
  exact ⟨_, _, ⟨rfl, rfl⟩, rfl⟩

def ofDocument? (doc : Datum) (s : Settings) (dir : Path) : Option Workspace :=
  match Declaration.readDocument doc with
  | .flawed _ => none
  | .sound ds => (ofDeclarations ds s dir).toOption

theorem ofDocument?_eq_some {doc : Datum} {dir : Path} :
    ofDocument? doc s dir = some w ↔
      ∃ ds, Declaration.readDocument doc = .sound ds ∧ ofDeclarations ds s dir = .ok w := by
  unfold ofDocument?
  split
  · next hd => simp [hd]
  · next ds hd => cases hw : ofDeclarations ds s dir <;> simp [hd, hw, Except.toOption]

def outcomesOf (doc : Datum) (s : Settings) (dir : Path) (tree : FileTree) : List Outcome :=
  (ofDocument? doc s dir).toList.flatMap fun w =>
    let (graph, reports) := w.graph.addAllBundleDependencies s w.bundles
    ((outcomes graph s tree reports w.bundles).toOption).getD []

theorem exists_of_mem_outcomesOf {doc : Datum} {dir : Path} (h : o ∈ outcomesOf doc s dir tree) :
    ∃ ds w w' a, Declaration.readDocument doc = .sound ds ∧ ofDeclarations ds s dir = .ok w ∧
      w.assemble s tree [] = (w', .ok a) ∧ o ∈ a.outcomes := by
  obtain ⟨w, hw, ho⟩ := List.mem_flatMap.1 h
  obtain ⟨ds, hd, hw⟩ := ofDocument?_eq_some.1 (Option.mem_toList.1 hw)
  cases hos : outcomes (w.graph.addAllBundleDependencies s w.bundles).1 s tree
      (w.graph.addAllBundleDependencies s w.bundles).2 w.bundles with
  | error e => simp [hos, Except.toOption] at ho
  | ok os =>
    obtain ⟨w', a, ha, rfl⟩ := exists_assemble hos
    exact ⟨ds, w, w', a, hd, hw, ha, by simpa [hos, Except.toOption] using ho⟩

theorem exists_plan {doc : Datum} {dir : Path} (h : ∃ o ∈ outcomesOf doc s dir tree, o.ok = true) :
    ∃ ds w w' a o plan, Declaration.readDocument doc = .sound ds ∧
      ofDeclarations ds s dir = .ok w ∧ w.assemble s tree [] = (w', .ok a) ∧ o ∈ a.outcomes ∧
      o.ok = true ∧ o.result = .ok plan := by
  obtain ⟨o, ho, hok⟩ := h
  obtain ⟨ds, w, w', a, hd, hw, ha, ho⟩ := exists_of_mem_outcomesOf ho
  obtain ⟨plan, hp⟩ := o.exists_of_ok hok
  exact ⟨ds, w, w', a, o, plan, hd, hw, ha, ho, hok, hp⟩

end Workspace

def sharedStem : Datum := .obj [("modules", .arr [
  .obj [("type", .str "cc_library"), ("name", .str "a"), ("stem", .str "x")],
  .obj [("type", .str "cc_library"), ("name", .str "b"), ("stem", .str "x")],
  .obj [("type", .str "apex_key"), ("name", .str "k"), ("public_key", .str "p"),
    ("private_key", .str "q")],
  .obj [("type", .str "apex"), ("name", .str "z"), ("key", .str "k"),
    ("native_shared_libs", .arr [.str "a", .str "b"]), ("payload_type", .str "zip")]])]

def sharedStemSettings : Settings where
  sourceRoot := .here
  outDir := .here
  installRoot := .here
  targets := [.arm64]

theorem exists_outcome_sharedStem :
    ∃ o ∈ Workspace.outcomesOf sharedStem sharedStemSettings .here {}, o.ok = true := by
  decide +kernel

def layered : Datum := .obj [("modules", .arr [
  .obj [("type", .str "cc_library"), ("name", .str "a"), ("shared_libs", .arr [.str "c"]),
    ("vendor_available", .bool true)],
  .obj [("type", .str "cc_library"), ("name", .str "c"), ("vendor_available", .bool true)],
  .obj [("type", .str "cc_binary"), ("name", .str "t"), ("shared_libs", .arr [.str "c"]),
    ("vendor_available", .bool true)],
  .obj [("type", .str "java_library"), ("name", .str "j")],
  .obj [("type", .str "apex_key"), ("name", .str "k"), ("public_key", .str "p"),
    ("private_key", .str "q"), ("installable", .bool false)],
  .obj [("type", .str "android_app_certificate"), ("name", .str "m"), ("certificate", .str "x")],
  .obj [("type", .str "apex"), ("name", .str "z"), ("key", .str "k"), ("certificate", .str ":m"),
    ("native_shared_libs", .arr [.str "a"]), ("binaries", .arr [.str "t"]),
    ("java_libs", .arr [.str "j"]), ("payload_type", .str "both"), ("use_vendor", .bool true)]])]

def layeredSettings : Settings where
  sourceRoot := .here
  outDir := .here
  installRoot := .here
  targets := [.arm64, .arm]
  debuggable := true
  vndkVersion := "current"

def layeredTree : FileTree where
  entries := [(["system"], .dir), (["system", "sepolicy"], .dir),
    (["system", "sepolicy", "apex"], .dir),
    (["system", "sepolicy", "apex", "z-file_contexts"], .file "")]

theorem exists_outcome_layered :
    ∃ o ∈ Workspace.outcomesOf layered layeredSettings .here layeredTree, o.ok = true := by
  decide +kernel

end BundleWright
