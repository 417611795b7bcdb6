import BundleWright.Proofs.Alike
import Mathlib.Data.List.Forall2
/-!
Choosing bundles. Main statement: the choice decides which outcomes there are and in which order,
and how often what the edges of a bundle reported is listed, and nothing else.
-/
namespace BundleWright

section Results

variable {ε ε' α β γ : Type} {f : α → Except ε β} {g : β → Except ε' γ} {l : List α} {bs : List β}
  {cs : List γ} {R : α → γ → Prop}

theorem exists_map_ok (h : ∀ a ∈ l, ∃ b, f a = .ok b) : ∃ bs : List β, l.map f = bs.map .ok := by
  induction l with
  | nil => exact ⟨[], rfl⟩
  | cons a l ih =>
    obtain ⟨b, hb⟩ := h a List.mem_cons_self
    obtain ⟨bs, hbs⟩ := ih fun x hx => h x (List.mem_cons_of_mem a hx)
    exact ⟨b :: bs, by rw [List.map_cons, List.map_cons, hb, hbs]⟩

theorem exists_of_map_ok (h : l.map f = bs.map .ok) {a : α} (ha : a ∈ l) :
    ∃ b ∈ bs, f a = .ok b := by
  have hm : f a ∈ bs.map .ok := h ▸ List.mem_map_of_mem ha
  obtain ⟨b, hb, he⟩ := List.mem_map.1 hm
  exact ⟨b, hb, he.symm⟩

theorem forall₂_of_map_ok (h : l.map f = bs.map .ok) (h' : bs.map g = cs.map .ok)
    (hR : ∀ a ∈ l, ∀ b c, f a = .ok b → g b = .ok c → R a c) : List.Forall₂ R l cs := by
  induction l generalizing bs cs with
  | nil =>
    obtain rfl : bs = [] := by simpa using h.symm
    obtain rfl : cs = [] := by simpa using h'.symm
    exact .nil
  | cons a l ih =>
    cases bs with
    | nil => simp at h
    | cons b bs =>
      cases cs with
      | nil => simp at h'
      | cons c cs =>
        obtain ⟨hb, hbs⟩ := List.cons.inj h
        obtain ⟨hc, hcs⟩ := List.cons.inj h'
        exact .cons (hR a List.mem_cons_self b c hb hc)
          (ih hbs hcs fun x hx => hR x (List.mem_cons_of_mem a hx))

theorem flatten_replicate_eq_iff {n : Nat} {as : List α} :
    (List.replicate n as).flatten = as ↔ n = 1 ∨ as = [] := by
  constructor
  · intro h
    have hlength := congrArg List.length h
    rw [List.length_flatten, List.map_replicate, List.sum_replicate_nat] at hlength
    rcases Nat.eq_zero_or_pos as.length with hzero | hpos
    · exact .inr (List.length_eq_zero_iff.1 hzero)
    · exact .inl (Nat.eq_of_mul_eq_mul_right hpos (by omega))
  · rintro (rfl | rfl)
    · simp
    · simp

end Results

/-- Whether two outcomes of a bundle differ at most in how often what the edges of the bundle
reported is listed: so many times in the one, and so many in the other. -/
def Outcome.Relisted (r : Except BundleError (List PropertyError)) (times times' : Nat)
    (o o' : Outcome) : Prop :=
  o'.bundle = o.bundle ∧ o'.result = o.result ∧
    ((∃ e, r = .error e ∧ o'.errors = o.errors) ∨ ∃ reported own, r = .ok reported ∧
      o.errors = (List.replicate times reported).flatten ++ own ∧
      o'.errors = (List.replicate times' reported).flatten ++ own)

namespace Workspace

variable {w : Workspace} {s : Settings} {tree : FileTree} {names : List String}
  {selected : List BundleModule} {b : BundleModule} {o o' : Outcome} {name : String}

theorem bundle_eq_ok_iff (hw : w.Sound) :
    w.bundle name = .ok b ↔ b ∈ w.bundles ∧ b.name = name := by
  have hfind : w.bundle name = .ok b ↔ w.bundle? name = some b := by
    unfold bundle
    split <;> simp_all
  rw [hfind, bundle?]
  refine ⟨fun h => ⟨List.mem_of_find?_eq_some h, by simpa using List.find?_some h⟩, ?_⟩
  rintro ⟨hb, rfl⟩
  rw [← List.head?_filter, filter_key_eq_singleton hw.names hb]
  rfl

theorem exists_outcomeOf {g : ModuleGraph} {r : Except BundleError (List PropertyError)}
    {times : Nat} (h : outcomeOf g s tree times b r = .ok o) (times' : Nat) :
    ∃ o', outcomeOf g s tree times' b r = .ok o' ∧ o.Relisted r times times' o' := by
  cases r with
  | error e =>
    cases h
    exact ⟨_, rfl, rfl, rfl, .inl ⟨e, rfl, rfl⟩⟩
  | ok reported =>
    obtain ⟨own, hown, rfl⟩ := exists_of_map_eq_ok h
    exact ⟨{ own with errors := (List.replicate times' reported).flatten ++ own.errors },
      by rw [outcomeOf, hown]; rfl, rfl, rfl, .inr ⟨reported, own.errors, rfl, rfl, rfl⟩⟩

theorem exists_select_of_known (hw : w.Sound) (hne : names ≠ [])
    (h : ∀ name ∈ names, ∃ b ∈ w.bundles, b.name = name) :
    ∃ selected, w.select names = .ok selected ∧ names.map w.bundle = selected.map .ok ∧
      selected.map (·.name) = names := by
  obtain ⟨selected, hs⟩ : ∃ selected : List BundleModule,
      names.map w.bundle = selected.map .ok := exists_map_ok fun name hname => by
    obtain ⟨b, hb, hn⟩ := h name hname
    exact ⟨b, (bundle_eq_ok_iff hw).2 ⟨hb, hn⟩⟩
  refine ⟨selected, ?_, hs, ?_⟩
  · rw [select, if_neg (by simpa using hne), mapM_eq_ok_iff.2 hs]
  · rw [map_eq_of_map_ok (g := id) hs fun name b hb => ((bundle_eq_ok_iff hw).1 hb).2,
      List.map_id]

theorem exists_selected (hw : w.Sound) (h : ∀ name ∈ names, ∃ b ∈ w.bundles, b.name = name) :
    ∃ selected, w.select names = .ok selected := by
  by_cases hne : names = []
  · exact ⟨w.bundles, by rw [hne]; rfl⟩
  · obtain ⟨selected, hs, _⟩ := exists_select_of_known hw hne h
    exact ⟨selected, hs⟩

theorem assemble_of_unknown (hw : w.Sound) (h : ∃ name ∈ names, ∀ b ∈ w.bundles, b.name ≠ name) :
    ∃ name ∈ names, (∀ b ∈ w.bundles, b.name ≠ name) ∧
      w.assemble s tree names = (w, .error (.workspace (.unknownBundle name))) := by
  obtain ⟨unknown, hmem, hno⟩ := h
  have hne : names ≠ [] := List.ne_nil_of_mem hmem
  cases hs : names.mapM w.bundle with
  | ok selected =>
    obtain ⟨b, _, hb⟩ := exists_of_map_ok (mapM_eq_ok_iff.1 hs) hmem
    obtain ⟨hb, hname⟩ := (bundle_eq_ok_iff hw).1 hb
    exact absurd hname (hno b hb)
  | error e =>
    obtain ⟨name, hname, he⟩ := exists_of_mapM_eq_error hs
    have hnone : w.bundle? name = none := by
      unfold bundle at he
      split at he <;> simp_all
    refine ⟨name, hname, fun b hb hn => ?_, ?_⟩
    · rw [(bundle_eq_ok_iff hw).2 ⟨hb, hn⟩] at he
      cases he
    · have hselect : w.select names = .error (.unknownBundle name) := by
        have he' : .unknownBundle name = e := by
          rw [bundle, hnone] at he
          exact Except.error.inj he
        rw [select, if_neg (by simpa using hne), hs, he']
      rw [assemble, hselect]

theorem fst_assemble (h : w.select names = .ok selected) :
    (w.assemble s tree names).1 = { w with graph := ((w.wired s).propagate w.bundles {}).1 } := by
  rw [assemble, h]
  simp only [ModuleGraph.addAllBundleDependencies_eq]
  rfl

theorem countP_name (hw : w.Sound) (hb : b ∈ w.bundles) :
    w.bundles.countP (·.name = b.name) = 1 := by
  rw [List.countP_eq_length_filter, filter_key_eq_singleton hw.names hb]
  rfl

theorem countP_selected (h : selected.map (·.name) = names) (name : String) :
    selected.countP (·.name = name) = names.count name := by
  rw [← h, List.count_eq_countP, List.countP_map]
  rfl

/-- The outcomes of chosen bundles beside those of all bundles. -/
theorem exists_chosen (hw : w.Sound) {all : Assembly} (ha : (w.assemble s tree []).2 = .ok all)
    (hne : names ≠ []) (hknown : ∀ name ∈ names, ∃ b ∈ w.bundles, b.name = name) :
    ∃ a, (w.assemble s tree names).2 = .ok a ∧ a.table = all.table ∧ a.variants = all.variants ∧
      List.Forall₂ (fun name o => ∃ o' ∈ all.outcomes, o'.bundle.name = name ∧
        o'.Relisted (w.graph.bundleReport o'.bundle s) 1 (names.count name) o)
        names a.outcomes := by
  obtain ⟨_, hall, hpos, hmap, htable, hvariants⟩ := exists_select_of_assemble ha
  cases hall
  obtain ⟨selected, hsel, hnames, hchosen⟩ := exists_select_of_known hw hne hknown
  have houtcome : ∀ b ∈ w.bundles, ∃ o' ∈ all.outcomes, ∃ o, o'.bundle = b ∧
      outcome (w.wired s) s tree (w.reports s) selected b = .ok o ∧
        o'.Relisted (w.graph.bundleReport b s) 1 (names.count b.name) o := by
    intro b hb
    obtain ⟨o', ho', hout⟩ := exists_of_map_ok hmap hb
    have hbundle := bundle_of_outcome hout
    rw [outcome_eq hw hb, countP_name hw hb] at hout
    obtain ⟨o, ho, hrel⟩ := exists_outcomeOf hout (names.count b.name)
    exact ⟨o', ho', o, hbundle, by rw [outcome_eq hw hb, countP_selected hchosen, ho], hrel⟩
  obtain ⟨os, hos⟩ : ∃ os : List Outcome,
      selected.map (outcome (w.wired s) s tree (w.reports s) selected) = os.map .ok :=
    exists_map_ok fun b hb => by
      obtain ⟨_, _, o, _, ho, _⟩ := houtcome b (mem_of_select hsel hb)
      exact ⟨o, ho⟩
  refine ⟨_, assemble_of_map hsel hpos hos, htable.symm, hvariants.symm, ?_⟩
  refine forall₂_of_map_ok hnames hos fun name _ b o hname ho => ?_
  obtain ⟨hb, rfl⟩ := (bundle_eq_ok_iff hw).1 hname
  obtain ⟨o', ho', o₁, rfl, ho₁, hrel⟩ := houtcome b hb
  obtain rfl : o = o₁ := Except.ok.inj (ho.symm.trans ho₁)
  exact ⟨o', ho', rfl, hrel⟩

theorem outcomes_eq_singleton {all : Assembly} (ha : (w.assemble s tree []).2 = .ok all)
    (hone : w.bundles.length = 1) (ho : o ∈ all.outcomes) : all.outcomes = [o] := by
  obtain ⟨_, hsel, _, hmap, _⟩ := exists_select_of_assemble ha
  cases hsel
  have hlength := congrArg List.length hmap
  rw [List.length_map, List.length_map, hone] at hlength
  obtain ⟨x, hx⟩ := List.length_eq_one_iff.1 hlength.symm
  rw [hx, List.mem_singleton] at ho
  rw [hx, ho]

theorem table_variants_eq {names' : List String} {a a' : Assembly}
    (ha : (w.assemble s tree names).2 = .ok a) (ha' : (w.assemble s tree names').2 = .ok a') :
    a'.table = a.table ∧ a'.variants = a.variants := by
  obtain ⟨_, _, _, _, htable, hvariants⟩ := exists_select_of_assemble ha
  obtain ⟨_, _, _, _, htable', hvariants'⟩ := exists_select_of_assemble ha'
  exact ⟨htable'.trans htable.symm, hvariants'.trans hvariants.symm⟩

end Workspace

theorem Outcome.Relisted.eq_iff {r : Except BundleError (List PropertyError)} {times : Nat}
    {o o' : Outcome} (h : o'.Relisted r 1 times o) :
    o = o' ↔ times = 1 ∨ ∀ reported, r = .ok reported → reported = [] := by
  obtain ⟨hbundle, hresult, ⟨e, rfl, herrors⟩ | ⟨reported, own, rfl, herrors', herrors⟩⟩ := h
  · have heq : o = o' := by
      cases o
      cases o'
      simp_all
    exact iff_of_true heq (.inr nofun)
  · have hown : o = o' ↔ o.errors = o'.errors := by
      cases o
      cases o'
      simp_all
    rw [hown, herrors, herrors', List.append_left_inj, List.replicate_one, List.flatten_singleton,
      flatten_replicate_eq_iff]
    simp

namespace Workspace

variable {doc : Datum} {ds : List Declaration} {s₀ s : Settings} {dir : Path} {w : Workspace}

/-- Choosing bundles only chooses, but for one thing. An unknown name is told and leaves the graph
alone. Known ones leave the same graph as all bundles do, give the same table and variants, and one
outcome for each name in its place: that of the bundle among all, except that what its edges
reported is listed as often as the bundle is chosen. -/
theorem selection_relists (hd : Declaration.readDocument doc = .sound ds)
    (hw : ofDeclarations ds s₀ dir = .ok w) (s : Settings) (tree : FileTree)
    (names : List String) :
    ((∃ name ∈ names, ∀ b ∈ w.bundles, b.name ≠ name) →
      ∃ name ∈ names, (∀ b ∈ w.bundles, b.name ≠ name) ∧
        w.assemble s tree names = (w, .error (.workspace (.unknownBundle name)))) ∧
    (names ≠ [] → (∀ name ∈ names, ∃ b ∈ w.bundles, b.name = name) →
      (w.assemble s tree names).1 = (w.assemble s tree []).1 ∧
      ∀ all, (w.assemble s tree []).2 = .ok all → ∃ a, (w.assemble s tree names).2 = .ok a ∧
        a.table = all.table ∧ a.variants = all.variants ∧
        List.Forall₂ (fun name o => ∃ o' ∈ all.outcomes, o'.bundle.name = name ∧
          o'.Relisted (w.graph.bundleReport o'.bundle s) 1 (names.count name) o ∧
          (o = o' ↔ names.count name = 1 ∨
            ∀ reported, w.graph.bundleReport o'.bundle s = .ok reported → reported = []))
          names a.outcomes) ∧
    ∀ names' a a', (w.assemble s tree names).2 = .ok a → (w.assemble s tree names').2 = .ok a' →
      a'.table = a.table ∧ a'.variants = a.variants := by
  have hsound := sound_of_ofDeclarations (Declaration.keeps_of_readDocument hd) hw
  refine ⟨assemble_of_unknown hsound, fun hne hknown => ⟨?_, fun all hall => ?_⟩,
    fun _ _ _ => table_variants_eq⟩
  · obtain ⟨selected, hsel, _⟩ := exists_select_of_known hsound hne hknown
    have hall : w.select [] = .ok w.bundles := rfl
    rw [fst_assemble hsel, fst_assemble hall]
  · obtain ⟨a, ha, htable, hvariants, hos⟩ := exists_chosen hsound hall hne hknown
    refine ⟨a, ha, htable, hvariants, hos.imp ?_⟩
    rintro name o ⟨o', ho', hname, hrel⟩
    exact ⟨o', ho', hname, hrel, hrel.eq_iff⟩

theorem selection_relists_layered :
    ∃ ds w all name a, Declaration.readDocument layered = .sound ds ∧
      ofDeclarations ds layeredSettings .here = .ok w ∧ (∃ b ∈ w.bundles, b.name = name) ∧
      (w.assemble layeredSettings layeredTree []).2 = .ok all ∧
      (w.assemble layeredSettings layeredTree [name]).2 = .ok a ∧
      ∃ o ∈ all.outcomes, o.bundle.name = name ∧ a.outcomes = [o] := by
  obtain ⟨ds, w, w', all, o, _, hd, hw, ha, ho, _, hp⟩ := exists_plan exists_outcome_layered
  have hsound := sound_of_ofDeclarations (Declaration.keeps_of_readDocument hd) hw
  have hb := (exists_of_outcome hsound ha ho hp).1
  have hall := congrArg Prod.snd ha
  obtain ⟨_, hchosen, _⟩ := selection_relists hd hw layeredSettings layeredTree [o.bundle.name]
  obtain ⟨_, hsame⟩ := hchosen (by simp) fun name hname =>
    ⟨o.bundle, hb, (List.mem_singleton.1 hname).symm⟩
  obtain ⟨a, ha', _, _, hos⟩ := hsame all hall
  obtain ⟨o₁, _, ⟨o', ho', hname, _, hiff⟩, hnil, hos⟩ := List.forall₂_cons_left_iff.1 hos
  obtain rfl := List.forall₂_nil_left_iff.1 hnil
  obtain rfl : o₁ = o' := hiff.2 (.inl (by simp))
  exact ⟨ds, w, all, o.bundle.name, a, hd, hw, ⟨o.bundle, hb, rfl⟩, hall, ha', o₁, ho', hname, hos⟩

end Workspace

def astray : Datum := .obj [("modules", .arr [
  .obj [("type", .str "apex_key"), ("name", .str "k"), ("public_key", .str "p"),
    ("private_key", .str "q")],
  .obj [("type", .str "apex"), ("name", .str "z"), ("key", .str "k"),
    ("java_libs", .arr [.str "x"]), ("payload_type", .str "zip")]])]

namespace Workspace

theorem reported_astray {w : Workspace} (hw : ofDocument? astray sharedStemSettings .here = some w) :
    w.bundles.map (·.name) = ["z"] ∧ ∀ b ∈ w.bundles,
      (w.graph.bundleReport b sharedStemSettings).toOption.any (· ≠ []) = true := by
  have h : ∀ w ∈ (ofDocument? astray sharedStemSettings .here).toList,
      w.bundles.map (·.name) = ["z"] ∧ ∀ b ∈ w.bundles,
        (w.graph.bundleReport b sharedStemSettings).toOption.any (· ≠ []) = true := by
    decide +kernel
  exact h w (Option.mem_toList.2 hw)

/-- A bundle that is chosen twice has what its edges reported listed twice. -/
theorem errors_doubled_astray :
    ∃ ds w all a o o', Declaration.readDocument astray = .sound ds ∧
      ofDeclarations ds sharedStemSettings .here = .ok w ∧
      (∀ name ∈ ["z", "z"], ∃ b ∈ w.bundles, b.name = name) ∧
      (w.assemble sharedStemSettings {} []).2 = .ok all ∧ all.outcomes = [o'] ∧
      (w.assemble sharedStemSettings {} ["z", "z"]).2 = .ok a ∧ o ∈ a.outcomes ∧
      o.bundle = o'.bundle ∧ o ≠ o' := by
  obtain ⟨o₀, ho₀⟩ : ∃ o, o ∈ outcomesOf astray sharedStemSettings .here {} :=
    List.exists_mem_of_ne_nil _ (by decide +kernel)
  obtain ⟨ds, w, w', all, hd, hw, ha, _⟩ := exists_of_mem_outcomesOf ho₀
  have hsound := sound_of_ofDeclarations (Declaration.keeps_of_readDocument hd) hw
  obtain ⟨hnames, hreport⟩ := reported_astray (ofDocument?_eq_some.2 ⟨ds, hd, hw⟩)
  have hknown : ∀ name ∈ ["z", "z"], ∃ b ∈ w.bundles, b.name = name := by
    intro name hname
    obtain rfl : name = "z" := by simpa using hname
    exact List.mem_map.1 (hnames ▸ List.mem_singleton_self _)
  have hall := congrArg Prod.snd ha
  obtain ⟨a, ha', _, _, hos⟩ := exists_chosen hsound hall (by simp) hknown
  obtain ⟨o, os, ⟨o', ho', _, hrel⟩, _, heq⟩ := List.forall₂_cons_left_iff.1 hos
  obtain ⟨_, hsel, _, hmap, _⟩ := exists_select_of_assemble hall
  cases hsel
  obtain ⟨b, hb, hout⟩ : ∃ b ∈ w.bundles, outcome (w.wired sharedStemSettings)
      sharedStemSettings {} (w.reports sharedStemSettings) w.bundles b = .ok o' :=
    List.mem_map.1 (hmap ▸ List.mem_map_of_mem ho')
  have hone := outcomes_eq_singleton hall (by simpa using congrArg List.length hnames) ho'
  refine ⟨ds, w, all, a, o, o', hd, hw, hknown, hall, hone, ha', by simp [heq], hrel.1, fun he => ?_⟩
  have hr := hreport b hb
  rw [← bundle_of_outcome hout] at hr
  rcases hrel.eq_iff.1 he with hcount | hnil
  · exact absurd hcount (by decide)
  · cases hb : w.graph.bundleReport o'.bundle sharedStemSettings with
    | error e => simp [hb, Except.toOption] at hr
    | ok reported => simp [hb, Except.toOption, hnil reported hb] at hr

end Workspace

end BundleWright
