import BundleWright.Proofs.Alike
/-!
Bundles and each other. Main statement: when one bundle is declared differently, every other one
comes out as before, unless the system refuses to say whether the file of security labels of the
changed one exists; that ends the work on all of them.
-/
namespace BundleWright

theorem mapError_bundle_ne_refused {α : Type} (x : Except BundleError α) (e : FileError) :
    x.mapError PlanError.bundle ≠ .error (.refused e) := by
  cases x <;> simp [Except.mapError]

namespace BundleModule

variable {b : BundleModule} {c : Collection} {s : Settings} {tree : FileTree} {e : FileError}

/-- Only the file of security labels is looked for while a bundle is planned. -/
theorem fileContexts_of_plan (h : b.plan c s tree = .error (.refused e)) :
    b.fileContexts s tree = .error (.refused e) := by
  rcases eq_or_exists_of_bind_eq_error h with h | ⟨selection, _, h⟩
  · exact absurd h (mapError_bundle_ne_refused _ e)
  · simp only at h
    split at h
    · rcases eq_or_exists_of_bind_eq_error h with h | ⟨contexts, _, h⟩
      · exact h
      · cases h
    · cases h

theorem fileContexts_of_generate {g : ModuleGraph} (h : g.generate b s tree = .error e) :
    b.fileContexts s tree = .error (.refused e) := by
  unfold ModuleGraph.generate at h
  split at h
  · cases h
  · cases h
  · next e' hplan =>
    cases h
    rcases eq_or_exists_of_bind_eq_error hplan with h | ⟨_, _, hplan⟩
    · exact absurd h (mapError_bundle_ne_refused _ _)
    · rcases eq_or_exists_of_bind_eq_error hplan with h | ⟨c, _, hplan⟩
      · exact absurd h (mapError_bundle_ne_refused _ _)
      · exact fileContexts_of_plan hplan

theorem generate_of_fileContexts {g : ModuleGraph} {selection : PayloadSelection}
    (hs : b.selection = .ok selection) (hi : selection.hasImage = true)
    (hc : Collection.ofBundle g b s = .ok c)
    (h : b.fileContexts s tree = .error (.refused e)) : g.generate b s tree = .error e := by
  have hplan : g.planOf b s tree = .error (.refused e) := by
    simp [ModuleGraph.planOf, hs, hc, plan, hi, h, Except.mapError, bind, Except.bind]
  rw [ModuleGraph.generate, hplan]

end BundleModule

namespace Workspace

variable {w w' : Workspace} {s : Settings} {tree : FileTree} {b : BundleModule} {o : Outcome}
  {names : List String} {selected : List BundleModule}

theorem fileContexts_of_outcome {e : FileError} (hw : w.Sound) (hb : b ∈ w.bundles)
    {g : ModuleGraph} (h : outcome g s tree (w.reports s) selected b = .error e) :
    b.fileContexts s tree = .error (.refused e) := by
  rw [outcome_eq hw hb] at h
  cases hr : w.graph.bundleReport b s with
  | error e' =>
    rw [hr] at h
    cases h
  | ok reported =>
    rw [hr] at h
    cases hg : g.generate b s tree with
    | ok o => simp [outcomeOf, hg, Except.map] at h
    | error e' =>
      simp only [outcomeOf, hg, Except.map, Except.error.injEq] at h
      exact BundleModule.fileContexts_of_generate (h ▸ hg)

theorem exists_bundle?_of_name {x : String}
    (hnames : w'.bundles.map (·.name) = w.bundles.map (·.name))
    (hothers : w'.bundles.filter (·.name ≠ x) = w.bundles.filter (·.name ≠ x)) {name : String}
    (hb : w.bundle? name = some b) :
    ∃ b', w'.bundle? name = some b' ∧ b'.name = b.name ∧ (b.name ≠ x → b' = b) := by
  have hname : b.name = name := by simpa using List.find?_some hb
  by_cases hx : name = x
  · have hmem : name ∈ w'.bundles.map (·.name) := by
      rw [hnames, ← hname]
      exact List.mem_map_of_mem (List.mem_of_find?_eq_some hb)
    obtain ⟨c, hc, hcn⟩ := List.mem_map.1 hmem
    have hsome : (w'.bundle? name).isSome = true := List.find?_isSome.2 ⟨c, hc, by simpa using hcn⟩
    obtain ⟨b', hb'⟩ := Option.isSome_iff_exists.1 hsome
    have hname' : b'.name = name := by simpa using List.find?_some hb'
    exact ⟨b', hb', hname'.trans hname.symm, fun hne => absurd (hname.trans hx) hne⟩
  · have hfind (v : Workspace) :
        v.bundle? name = (v.bundles.filter (·.name ≠ x)).find? (·.name = name) := by
      rw [bundle?, List.find?_filter]
      congr 1
      funext c
      by_cases hc : c.name = name <;> simp [hc, hx]
    refine ⟨b, ?_, rfl, fun _ => rfl⟩
    rw [hfind, hothers, ← hfind, hb]

theorem exists_select {x : String} (hnames : w'.bundles.map (·.name) = w.bundles.map (·.name))
    (hothers : w'.bundles.filter (·.name ≠ x) = w.bundles.filter (·.name ≠ x))
    (h : w.select names = .ok selected) :
    ∃ selected', w'.select names = .ok selected' ∧
      selected'.map (·.name) = selected.map (·.name) ∧
      selected'.filter (·.name ≠ x) = selected.filter (·.name ≠ x) := by
  unfold select at h ⊢
  split at h
  · next hempty =>
    cases h
    exact ⟨w'.bundles, by rw [if_pos hempty], hnames, hothers⟩
  · next hempty =>
    rw [if_neg hempty]
    simp only [mapM_eq_ok_iff] at h ⊢
    clear hempty
    induction names generalizing selected with
    | nil =>
      cases selected with
      | nil => exact ⟨[], rfl, rfl, rfl⟩
      | cons b bs => cases h
    | cons name names ih =>
      cases selected with
      | nil => cases h
      | cons b selected =>
        obtain ⟨hb, hrest⟩ := List.cons.inj h
        obtain ⟨selected', h', hn, hf⟩ := ih hrest
        have hb? : w.bundle? name = some b := by
          unfold bundle at hb
          split at hb <;> simp_all
        obtain ⟨b', hb', hname, heq⟩ := exists_bundle?_of_name hnames hothers hb?
        have hbundle : w'.bundle name = .ok b' := by rw [bundle, hb']
        refine ⟨b' :: selected', ?_, ?_, ?_⟩
        · simp [hbundle, h']
        · simp [hname, hn]
        · by_cases hx : b.name = x
          · simpa [List.filter_cons, hname, hx] using hf
          · simpa [List.filter_cons, hx, heq hx] using hf

theorem countP_name_eq {selected' : List BundleModule} (name : String)
    (h : selected'.map (·.name) = selected.map (·.name)) :
    selected'.countP (·.name = name) = selected.countP (·.name = name) := by
  have hcount (l : List BundleModule) :
      l.countP (·.name = name) = (l.map (·.name)).countP (· = name) := by
    rw [List.countP_map]
    rfl
  rw [hcount, hcount, h]

section Others

variable {x : String} {a : Assembly} (h : Alike (· = x) w w')
  (hnames : w'.bundles.map (·.name) = w.bundles.map (·.name))
  (hothers : w'.bundles.filter (·.name ≠ x) = w.bundles.filter (·.name ≠ x))
include h hnames hothers

/-- All bundles but one come out as they do in a workspace that differs in that one only, or the
file of security labels of that one cannot be looked for. -/
theorem outcomes_or_refused (ha : (w.assemble s tree names).2 = .ok a) :
    (∃ a', (w'.assemble s tree names).2 = .ok a' ∧
      a'.outcomes.filter (·.bundle.name ≠ x) = a.outcomes.filter (·.bundle.name ≠ x)) ∨
    ∃ chosen, w'.select names = .ok chosen ∧ ∃ b ∈ chosen, b.name = x ∧
      ∃ e, b.fileContexts s tree = .error (.refused e) ∧
        (w'.assemble s tree names).2 = .error (.refused e) := by
  obtain ⟨selected, hsel, hpos, hmap, _⟩ := exists_select_of_assemble ha
  obtain ⟨selected', hsel', hn, hf⟩ := exists_select hnames hothers hsel
  have hbundle (v : Workspace) (chosen : List BundleModule) (b : BundleModule) (o : Outcome)
      (ho : outcome (v.wired s) s tree (v.reports s) chosen b = .ok o) :
      decide (o.bundle.name ≠ x) = decide (b.name ≠ x) := by
    rw [bundle_of_outcome ho]
  have hsame : ∀ b ∈ selected.filter (·.name ≠ x),
      outcome (w'.wired s) s tree (w'.reports s) selected' b =
        outcome (w.wired s) s tree (w.reports s) selected b := fun b hb => by
    obtain ⟨hb, hx⟩ := List.mem_filter.1 hb
    exact h.outcome_eq (mem_of_select hsel hb) (by simpa using hx) (countP_name_eq _ hn) tree
  have hpicked := filter_map_ok hmap (hbundle w selected)
  rw [assemble_eq hsel', outcomes, if_neg (by omega)]
  cases hrun : selected'.mapM (outcome (w'.wired s) s tree (w'.reports s) selected') with
  | ok os =>
    refine .inl ⟨_, rfl, ?_⟩
    have hpicked' := filter_map_ok (mapM_eq_ok_iff.1 hrun) (hbundle w' selected')
    rw [hf, List.map_congr_left hsame, hpicked] at hpicked'
    exact (eq_of_map_ok_eq hpicked').symm
  | error e =>
    refine .inr ⟨selected', hsel', ?_⟩
    obtain ⟨b, hb, hfail⟩ := exists_of_mapM_eq_error hrun
    -- any other bundle would have been refused in the first workspace too
    have hx : b.name = x := by
      by_contra hx
      have hmem : b ∈ selected.filter (·.name ≠ x) := by
        rw [← hf]
        exact List.mem_filter.2 ⟨hb, by simpa using hx⟩
      have hout : outcome (w.wired s) s tree (w.reports s) selected b ∈ a.outcomes.map .ok := by
        rw [← hmap]
        exact List.mem_map_of_mem (List.mem_filter.1 hmem).1
      rw [← hsame b hmem, hfail] at hout
      simp at hout
    exact ⟨b, hb, hx, e, fileContexts_of_outcome h.sound' (mem_of_select hsel' hb) hfail, rfl⟩

end Others

theorem exists_refused (hw : w.Sound) (hb : b ∈ w.bundles) (hpos : 0 < s.maxConcurrentBundles)
    {reported : List PropertyError} (hr : w.graph.bundleReport b s = .ok reported) {e : FileError}
    (hg : (w.wired s).generate b s tree = .error e) :
    ∃ e, (w.assemble s tree []).2 = .error (.refused e) := by
  have hall : w.select [] = .ok w.bundles := rfl
  rw [assemble_eq hall, outcomes, if_neg (by omega)]
  cases hrun : w.bundles.mapM (outcome (w.wired s) s tree (w.reports s) w.bundles) with
  | error e' => exact ⟨e', rfl⟩
  | ok os =>
    have hfail : outcome (w.wired s) s tree (w.reports s) w.bundles b = .error e := by
      rw [outcome_eq hw hb, hr, outcomeOf, hg]
      rfl
    have hout : outcome (w.wired s) s tree (w.reports s) w.bundles b ∈ os.map .ok :=
      mapM_eq_ok_iff.1 hrun ▸ List.mem_map_of_mem hb
    simp [hfail] at hout

section Declared

variable {known : List BundleDefaults} {s₀ : Settings} {dir : Path} {l r : List Declaration}
  {x x' : Bundle}

open Declaration

theorem exists_parts_bundle (h : ∃ p, (Declaration.bundle x).nodes known s₀ dir = .ok p) :
    ∃ y : Bundle, y.name = x.name ∧ (Declaration.bundle x).parts known s₀ dir =
      ([y.module s₀ dir], [(y.module s₀ dir).toNode]) := by
  obtain ⟨p, hp⟩ := h
  obtain ⟨y, hy, rfl⟩ := exists_of_map_eq_ok hp
  refine ⟨y, ?_, parts_eq hp⟩
  obtain ⟨chosen, _, hy⟩ := exists_of_bind_eq_ok hy
  cases hy
  rfl

theorem defaultsAmong_around (x : Bundle) :
    defaultsAmong (l ++ .bundle x :: r) = defaultsAmong l ++ defaultsAmong r := by
  simp [defaultsAmong]

theorem filter_around {name : String} (hne : x.name ≠ name) :
    (l ++ .bundle x :: r).filter (·.name = name) =
      l.filter (·.name = name) ++ r.filter (·.name = name) := by
  rw [List.filter_append, List.filter_cons_of_neg (by simp [Declaration.name, hne])]

theorem named_bundle {ds : List Declaration} {y : Bundle} (hn : (ds.map Declaration.name).Nodup)
    (hx : .bundle x ∈ ds) (hp : (Declaration.bundle x).parts known s₀ dir =
      ([y.module s₀ dir], [(y.module s₀ dir).toNode])) :
    (built known s₀ dir ds).graph.named x.name =
      [⟨(y.module s₀ dir).id, (y.module s₀ dir).toNode⟩] := by
  have hkey : (y.module s₀ dir).toNode.key = (y.module s₀ dir).id := by
    simp [Bundle.module, BundleModule.toNode, Node.key, Node.variantId]
  have hone : ds.filter (·.name = x.name) = [.bundle x] := filter_key_eq_singleton hn hx
  simp [named_built, hone, builtNodes, hp, hkey]

theorem alike_of_bundle (hk : ∀ d ∈ l ++ .bundle x :: r, d.Keeps)
    (hk' : ∀ d ∈ l ++ .bundle x' :: r, d.Keeps) (hx : x'.name = x.name)
    (hw : ofDeclarations (l ++ .bundle x :: r) s₀ dir = .ok w)
    (hw' : ofDeclarations (l ++ .bundle x' :: r) s₀ dir = .ok w') :
    Alike (· = x.name) w w' ∧ w'.bundles.map (·.name) = w.bundles.map (·.name) ∧
      w'.bundles.filter (·.name ≠ x.name) = w.bundles.filter (·.name ≠ x.name) := by
  have hsound := sound_of_ofDeclarations hk hw
  have hsound' := sound_of_ofDeclarations hk' hw'
  have hlinks := edges_of_ofDeclarations hw
  have hlinks' := edges_of_ofDeclarations hw'
  obtain ⟨hn, hparts, _, _, hbuilt⟩ := ofDeclarations_eq_ok_iff.1 hw
  obtain ⟨hn', hparts', _, _, hbuilt'⟩ := ofDeclarations_eq_ok_iff.1 hw'
  rw [defaultsAmong_around] at hparts hparts' hbuilt hbuilt'
  generalize defaultsAmong l ++ defaultsAmong r = known at hparts hparts' hbuilt hbuilt'
  subst hbuilt hbuilt'
  obtain ⟨y, hy, hpy⟩ := exists_parts_bundle (hparts (.bundle x) (by simp))
  obtain ⟨y', hy', hpy'⟩ := exists_parts_bundle (hparts' (.bundle x') (by simp))
  have hfilter (name : String) (hname : ¬name = x.name) :
      (l ++ .bundle x' :: r).filter (·.name = name) =
        (l ++ .bundle x :: r).filter (·.name = name) := by
    rw [filter_around (Ne.symm hname), filter_around (hx ▸ Ne.symm hname)]
  have hbundles : (built known s₀ dir (l ++ .bundle x :: r)).bundles =
      builtBundles known s₀ dir l ++ y.module s₀ dir :: builtBundles known s₀ dir r := by
    simp [built, builtBundles, hpy]
  have hbundles' : (built known s₀ dir (l ++ .bundle x' :: r)).bundles =
      builtBundles known s₀ dir l ++ y'.module s₀ dir :: builtBundles known s₀ dir r := by
    simp [built, builtBundles, hpy']
  have hname : (y.module s₀ dir).name = x.name := hy
  have hname' : (y'.module s₀ dir).name = x.name := hy'.trans hx
  refine ⟨⟨hsound, hsound', hlinks, hlinks', fun name h => ?_, fun name h => ?_, ?_⟩, ?_, ?_⟩
  · rw [named_built, named_built, hfilter name h]
  · rw [filter_bundles_built, filter_bundles_built, hfilter name h]
  · rintro _ rfl
    refine ⟨y.module s₀ dir, y'.module s₀ dir, ?_, hname'.trans hname.symm, rfl,
      named_bundle hn (by simp) hpy, ?_⟩
    · rw [Bundle.module, Bundle.module, hy', hy, hx]
    · rw [← hx]
      exact named_bundle hn' (by simp) hpy'
  · rw [hbundles, hbundles']
    simp [hname, hname']
  · rw [hbundles, hbundles']
    simp [hname, hname']

/-- Two accepted documents that declare one bundle differently give every other bundle the same
outcome, in the same order; the only way in which the changed bundle can be in the way of the others
is that the system refuses to look for its file of security labels. -/
theorem bundles_isolated {doc doc' : Datum} {a : Assembly}
    (hd : Declaration.readDocument doc = .sound (l ++ .bundle x :: r))
    (hd' : Declaration.readDocument doc' = .sound (l ++ .bundle x' :: r)) (hx : x'.name = x.name)
    (hw : ofDeclarations (l ++ .bundle x :: r) s₀ dir = .ok w)
    (hw' : ofDeclarations (l ++ .bundle x' :: r) s₀ dir = .ok w')
    (ha : (w.assemble s tree names).2 = .ok a) :
    (∃ a', (w'.assemble s tree names).2 = .ok a' ∧
      a'.outcomes.filter (·.bundle.name ≠ x.name) = a.outcomes.filter (·.bundle.name ≠ x.name)) ∨
    ∃ chosen, w'.select names = .ok chosen ∧ ∃ b ∈ chosen, b.name = x.name ∧
      ∃ e, b.fileContexts s tree = .error (.refused e) ∧
        (w'.assemble s tree names).2 = .error (.refused e) := by
  obtain ⟨halike, hnames, hothers⟩ := alike_of_bundle (Declaration.keeps_of_readDocument hd)
    (Declaration.keeps_of_readDocument hd') hx hw hw'
  exact outcomes_or_refused halike hnames hothers ha

end Declared

end Workspace

namespace FileTree

variable {t : FileTree} {links : Nat} {dir : Location} {c : String} {rest : List String}

theorem descend_of_dir (hc : c ≠ "" ∧ c ≠ "." ∧ c ≠ "..") (hs : c.utf8ByteSize ≤ longestName)
    (hd : t.get? (dir ++ [c]) = some .dir) :
    t.descend .target links dir (c :: rest) = t.descend .target links (dir ++ [c]) rest := by
  rw [descend]
  simp only [hc.1, hc.2.1, hc.2.2, or_self, ite_false, reduceCtorEq, false_and, Nat.not_lt.2 hs]
  split <;> simp_all

theorem descend_of_long (hc : c ≠ "" ∧ c ≠ "." ∧ c ≠ "..") (hs : longestName < c.utf8ByteSize) :
    t.descend .target links dir (c :: rest) = .error .nameTooLong := by
  rw [descend]
  simp only [hc.1, hc.2.1, hc.2.2, or_self, ite_false, reduceCtorEq, false_and, hs, ite_true]

theorem isFile_of_long {p : Path} (hn : p.hasNull = false)
    (hr : t.resolve .target p = .error .nameTooLong) :
    t.isFile p = .error (.refused .nameTooLong p.text) := by
  simp [isFile, status, hn, hr, Except.map]

end FileTree

def crowded (contexts : Datum) : Datum := .obj [("modules", .arr [
  .obj [("type", .str "cc_library"), ("name", .str "a")],
  .obj [("type", .str "apex_key"), ("name", .str "k"), ("public_key", .str "p"),
    ("private_key", .str "q")],
  .obj [("type", .str "apex"), ("name", .str "b"), ("key", .str "k"),
    ("native_shared_libs", .arr [.str "a"]), ("payload_type", .str "zip")],
  .obj [("type", .str "apex"), ("name", .str "z"), ("key", .str "k"),
    ("native_shared_libs", .arr [.str "a"]), ("file_contexts", contexts)]])]

def crowdedModules : List Declaration := [
  .library { flavor := .library, name := "a" },
  .key { name := "k", publicKey := "p", privateKey := "q" },
  .bundle { name := "b", properties := {
    key := some "k", nativeSharedLibs := ["a"], payloadType := some "zip" } }]

def crowdedBundle (contexts : Option String) : Bundle where
  name := "z"
  properties := { key := some "k", nativeSharedLibs := ["a"], fileContexts := contexts }

theorem readDocument_crowded : Declaration.readDocument (crowded .null) =
    .sound (crowdedModules ++ [.bundle (crowdedBundle none)]) := by
  rfl

theorem readDocument_crowded_str (contexts : String) :
    Declaration.readDocument (crowded (.str contexts)) =
      .sound (crowdedModules ++ [.bundle (crowdedBundle (some contexts))]) := by
  rfl

namespace Workspace

theorem mem_bundles_crowded (contexts : String) :
    ∃ w, ofDeclarations (crowdedModules ++ [.bundle (crowdedBundle (some contexts))])
        sharedStemSettings .here = .ok w ∧
      (crowdedBundle (some contexts)).module sharedStemSettings .here ∈ w.bundles :=
  ⟨_, rfl, .tail _ (.head _)⟩

end Workspace

def longText (n : Nat) : String := String.ofList (List.replicate n 'f')

theorem utf8ByteSize_longText (n : Nat) : (longText n).utf8ByteSize = n := by
  induction n with
  | zero => rfl
  | succ n ih =>
    have hone : (String.ofList ['f']).utf8ByteSize = 1 := by decide
    rw [longText] at *
    rw [List.replicate_succ, ← List.singleton_append, String.ofList_append,
      String.utf8ByteSize_append, ih, hone, Nat.add_comm]

section Long

variable {n : Nat}

theorem mem_longText {c : Char} (h : c ∈ (longText n ++ "-file_contexts").toList) :
    c = 'f' ∨ c ∈ "-file_contexts".toList := by
  rw [longText, String.toList_append, String.toList_ofList, List.mem_append] at h
  exact h.imp_left List.eq_of_mem_replicate

theorem utf8ByteSize_long : (longText n ++ "-file_contexts").utf8ByteSize = n + 14 := by
  rw [String.utf8ByteSize_append, utf8ByteSize_longText]
  rfl

theorem isComponent_long : Path.IsComponent (longText n ++ "-file_contexts") := by
  have hne {w : List Char} (hw : w.length ≤ 1) : (longText n ++ "-file_contexts").toList ≠ w := by
    rintro rfl
    rw [String.toList_append, List.length_append] at hw
    simp at hw
  refine ⟨hne (by simp), hne (by simp), fun h => ?_⟩
  rcases mem_longText h with h | h <;> revert h <;> decide

end Long

theorem fileContexts_long {n : Nat} {b : BundleModule} (hn : 241 < n)
    (hb : b.node.bundle.fileContextsName = longText n) :
    ∃ e, b.fileContexts sharedStemSettings layeredTree = .error (.refused e) := by
  have hparts : (sharedStemSettings.sepolicyPath / (longText n ++ "-file_contexts") : Path).parts =
      ["system", "sepolicy", "apex", longText n ++ "-file_contexts"] := by
    rw [Path.parts_div_component isComponent_long]
    rfl
  have hroot : (sharedStemSettings.sepolicyPath / (longText n ++ "-file_contexts") : Path).root =
      .none := by
    rw [Path.root_div_component isComponent_long]
    rfl
  have hlong : FileTree.longestName < (longText n ++ "-file_contexts").utf8ByteSize := by
    rw [utf8ByteSize_long, FileTree.longestName]
    omega
  have hdots : longText n ++ "-file_contexts" ≠ "" ∧ longText n ++ "-file_contexts" ≠ "." ∧
      longText n ++ "-file_contexts" ≠ ".." := by
    refine ⟨?_, ?_, ?_⟩ <;>
    · intro he
      rw [he] at hlong
      revert hlong
      decide
  rw [BundleModule.fileContexts, hb]
  generalize (sharedStemSettings.sepolicyPath / (longText n ++ "-file_contexts") : Path) = p at *
  have hnull : p.hasNull = false := by
    have hlast : Path.null ∉ (longText n ++ "-file_contexts").toList := fun h => by
      rcases mem_longText h with h | h <;> revert h <;> decide
    simp only [Path.hasNull, hparts, List.any_cons, List.any_nil, Bool.or_false,
      Bool.or_eq_false_iff]
    refine ⟨by decide, by decide, by decide, by simpa using hlast⟩
  have hresolve : layeredTree.resolve .target p = .error .nameTooLong := by
    unfold FileTree.resolve
    split
    · rfl
    · have habs : p.isAbsolute = false := by
        rw [Path.isAbsolute, hroot]
        rfl
      rw [hparts, habs, if_neg (by decide), FileTree.descend_of_dir (by decide) (by decide) rfl,
        FileTree.descend_of_dir (by decide) (by decide) rfl,
        FileTree.descend_of_dir (by decide) (by decide) rfl, FileTree.descend_of_long hdots hlong]
  exact ⟨.refused .nameTooLong p.text, by rw [FileTree.isFile_of_long hnull hresolve]⟩

namespace Workspace

theorem collected_crowded :
    ∀ w ∈ (ofDocument? (crowded (.str (longText 256))) sharedStemSettings .here).toList,
      ∀ b ∈ w.bundles, (w.graph.bundleReport b sharedStemSettings).toOption.isSome = true ∧
        (Collection.ofBundle (w.wired sharedStemSettings) b sharedStemSettings).toOption.isSome =
          true := by
  decide +kernel

theorem exists_outcome_crowded : ∀ contexts ∈ [.null, .str "c"],
    ∃ o ∈ outcomesOf (crowded contexts) sharedStemSettings .here layeredTree,
      o.bundle.name = "b" ∧ o.ok = true := by
  decide +kernel

theorem exists_assemble_crowded (contexts : Datum) (h : contexts ∈ [.null, .str "c"]) :
    ∃ ds w a, Declaration.readDocument (crowded contexts) = .sound ds ∧
      ofDeclarations ds sharedStemSettings .here = .ok w ∧
      (w.assemble sharedStemSettings layeredTree []).2 = .ok a ∧
      ∃ o ∈ a.outcomes, o.bundle.name = "b" ∧ o.ok = true := by
  obtain ⟨o, ho, hb⟩ := exists_outcome_crowded contexts h
  obtain ⟨ds, w, w', a, hd, hw, ha, ho⟩ := exists_of_mem_outcomesOf ho
  exact ⟨ds, w, a, hd, hw, congrArg Prod.snd ha, o, ho, hb⟩

theorem bundles_isolated_crowded :
    ∃ w w' a a', Declaration.readDocument (crowded .null) =
        .sound (crowdedModules ++ .bundle (crowdedBundle none) :: []) ∧
      Declaration.readDocument (crowded (.str "c")) =
        .sound (crowdedModules ++ .bundle (crowdedBundle (some "c")) :: []) ∧
      ofDeclarations (crowdedModules ++ .bundle (crowdedBundle none) :: []) sharedStemSettings
        .here = .ok w ∧
      ofDeclarations (crowdedModules ++ .bundle (crowdedBundle (some "c")) :: [])
        sharedStemSettings .here = .ok w' ∧
      (w.assemble sharedStemSettings layeredTree []).2 = .ok a ∧
      (w'.assemble sharedStemSettings layeredTree []).2 = .ok a' ∧
      (∃ o ∈ a.outcomes, o.bundle.name = "b" ∧ o.ok = true) ∧
      a'.outcomes.filter (·.bundle.name ≠ "z") = a.outcomes.filter (·.bundle.name ≠ "z") := by
  obtain ⟨ds, w, a, hd, hw, ha, ho⟩ := exists_assemble_crowded .null (by simp)
  obtain ⟨ds', w', a', hd', hw', ha', _⟩ := exists_assemble_crowded (.str "c") (by simp)
  obtain rfl : _ = ds := Checked.sound.inj (readDocument_crowded.symm.trans hd)
  obtain rfl : _ = ds' := Checked.sound.inj ((readDocument_crowded_str "c").symm.trans hd')
  refine ⟨w, w', a, a', hd, hd', hw, hw', ha, ha', ho, ?_⟩
  rcases bundles_isolated hd hd' rfl hw hw' ha with ⟨a₁, ha₁, hf⟩ | ⟨_, _, _, _, _, _, _, hfail⟩
  · rw [ha'] at ha₁
    cases ha₁
    exact hf
  · rw [ha'] at hfail
    cases hfail

/-- A bundle that names its labels too long takes the outcome of another bundle away. -/
theorem isolation_fails_crowded :
    ∃ w w' a e, Declaration.readDocument (crowded .null) =
        .sound (crowdedModules ++ .bundle (crowdedBundle none) :: []) ∧
      Declaration.readDocument (crowded (.str (longText 256))) =
        .sound (crowdedModules ++ .bundle (crowdedBundle (some (longText 256))) :: []) ∧
      ofDeclarations (crowdedModules ++ .bundle (crowdedBundle none) :: []) sharedStemSettings
        .here = .ok w ∧
      ofDeclarations (crowdedModules ++ .bundle (crowdedBundle (some (longText 256))) :: [])
        sharedStemSettings .here = .ok w' ∧
      (w.assemble sharedStemSettings layeredTree []).2 = .ok a ∧
      (∃ o ∈ a.outcomes, o.bundle.name = "b" ∧ o.ok = true) ∧
      (w'.assemble sharedStemSettings layeredTree []).2 = .error (.refused e) := by
  obtain ⟨ds, w, a, hd, hw, ha, ho⟩ := exists_assemble_crowded .null (by simp)
  obtain rfl : _ = ds := Checked.sound.inj (readDocument_crowded.symm.trans hd)
  obtain ⟨w', hw', hb⟩ := mem_bundles_crowded (longText 256)
  have hd' := readDocument_crowded_str (longText 256)
  have hsound := sound_of_ofDeclarations (Declaration.keeps_of_readDocument hd') hw'
  have hw'? := ofDocument?_eq_some.2 ⟨_, hd', hw'⟩
  obtain ⟨hr, hc⟩ := collected_crowded w' (Option.mem_toList.2 hw'?) _ hb
  obtain ⟨reported, hr⟩ := exists_of_toOption_isSome hr
  obtain ⟨c, hc⟩ := exists_of_toOption_isSome hc
  have hname : ((crowdedBundle (some (longText 256))).module sharedStemSettings
      .here).node.bundle.fileContextsName = longText 256 := by
    have hne : longText 256 ≠ "" := by
      intro he
      have hsize := congrArg String.utf8ByteSize he
      rw [utf8ByteSize_longText] at hsize
      cases hsize
    have hgiven : Bundle.given (some (longText 256)) = some (longText 256) := by
      simp [Bundle.given, hne]
    rw [Bundle.fileContextsName, show ((crowdedBundle (some (longText 256))).module
      sharedStemSettings .here).node.bundle.properties.fileContexts = some (longText 256) from rfl,
      hgiven]
    rfl
  obtain ⟨e, he⟩ := fileContexts_long (by decide) hname
  obtain ⟨e, he⟩ := exists_refused hsound hb (by decide) hr
    (BundleModule.generate_of_fileContexts (show BundleModule.selection _ = .ok .image from rfl)
      rfl hc he)
  exact ⟨w, w', a, e, hd, hd', hw, hw', ha, ho, he⟩

end Workspace

end BundleWright
