import BundleWright.Proofs.Findings
import BundleWright.Proofs.Normalised
import Mathlib.Logic.Relation
/-!
What a bundle embeds. Main statement: the files of a bundle are those of its direct dependencies and
of the libraries that these need, whatever the shape of the graph and the order of its edges.
-/
namespace BundleWright

/-- The file that a direct dependency brings in, if its tag asks for nodes of its kind. -/
inductive Brings : Tag → Node → Path → Prop
  | library {n : Node} {l : NativeLibrary} : n.kind = .library l → Brings .sharedLib n l.outputFile
  | binary {n : Node} {x : NativeBinary} : n.kind = .binary x → n.target.native = true →
      Brings .executable n x.outputFile
  | script {n : Node} {c : Script} : n.kind = .script c → Brings .executable n c.outputFile
  | java {n : Node} {j : JavaLibrary} {jar : Path} : n.kind = .java j → j.dexJar = some jar →
      Brings .javaLib n jar
  | prebuilt {n : Node} {p : Prebuilt} : n.kind = .prebuilt p → Brings .prebuilt n p.outputFile

inductive Opens (setSystemApart : Bool) : Tag → Node → Prop
  | library {n : Node} {l : NativeLibrary} : n.kind = .library l → n.Fits setSystemApart →
      Opens setSystemApart .sharedLib n
  | binary {n : Node} {x : NativeBinary} : n.kind = .binary x → n.target.native = true →
      n.Fits setSystemApart → Opens setSystemApart .executable n
  | translated {n : Node} {x : NativeBinary} : n.kind = .binary x → n.target.native = false →
      Opens setSystemApart .executable n
  | java {n : Node} {j : JavaLibrary} : n.kind = .java j → Opens setSystemApart .javaLib n
  | prebuilt {n : Node} {p : Prebuilt} : n.kind = .prebuilt p → n.Fits setSystemApart →
      Opens setSystemApart .prebuilt n

structure Carried (setSystemApart : Bool) (n : Node) (l : NativeLibrary) : Prop where
  kind : n.kind = .library l
  installable : l.installable = true
  not_stubs : l.isStubs = false
  no_stubs_variants : l.hasStubsVariants = false
  fits : n.Fits setSystemApart

namespace Findings

variable {settings : Settings} {b : BundleModule} {tag : Tag} {n : Node} {p : Path} {d : String}
  {k : FileClass} {links : List String} {f : PackagedFile} {setSystemApart : Bool}

theorem mem_files_add :
    f ∈ (add {} b tag n p d k links).2.files ↔
      PackagedFile.make p n.name d k links (some n.key) = .ok f := by
  unfold add
  split
  · next f' h => simp [h, eq_comm]
  · next fault h => simp [h, report]

theorem isOf_of_mem_add (ho : n.Offers setSystemApart p d links)
    (h : f ∈ (add {} b tag n p d k links).2.files) :
    f.builtFile = p ∧ f.IsOf setSystemApart n := by
  obtain ⟨hp, _, hd, hl, hk⟩ := PackagedFile.make_eq_ok (mem_files_add.1 h)
  exact ⟨hp, by rw [hp, hd, hl]; exact ho, hk⟩

theorem exists_mem_add (ho : n.Offers setSystemApart p d links) (h : n.Fits setSystemApart) :
    ∃ f ∈ (add {} b tag n p d k links).2.files, f.builtFile = p := by
  obtain ⟨f, hf⟩ := PackagedFile.exists_make_iff.2 (ho.fits_iff.1 h)
  exact ⟨f, mem_files_add.2 hf, (PackagedFile.make_eq_ok hf).1⟩

theorem fst_add (ho : n.Offers setSystemApart p d links) :
    (add {} b tag n p d k links).1 = true ↔ n.Fits setSystemApart := by
  rw [ho.fits_iff,
    ← PackagedFile.exists_make_iff (p := p) (m := n.name) (k := k) (o := some n.key)]
  unfold add
  split
  · next f' h => simp [h]
  · next fault h => simp [h]

theorem mem_files_direct (h : f ∈ (direct settings b {} tag n).2.files) :
    Brings tag n f.builtFile ∧ f.IsOf b.setsSystemApart n := by
  unfold direct at h
  split at h
  · next l hk =>
    obtain ⟨hp, hf⟩ := isOf_of_mem_add (Node.offers_library hk) h
    exact ⟨hp ▸ .library hk, hf⟩
  · next x hk =>
    split at h
    · next hn =>
      obtain ⟨hp, hf⟩ := isOf_of_mem_add (Node.offers_binary hk) h
      exact ⟨hp ▸ .binary hk hn, hf⟩
    · simp at h
  · next c hk =>
    obtain ⟨hp, hf⟩ := isOf_of_mem_add (Node.offers_script hk) h
    exact ⟨hp ▸ .script hk, hf⟩
  · next j hk =>
    split at h
    · simp [report] at h
    · next jar hj =>
      have hm : f ∈ (add {} b .javaLib n jar InstallDir.java .javaSharedLib []).2.files := h
      obtain ⟨hp, hf⟩ := isOf_of_mem_add (Node.offers_java hk hj) hm
      exact ⟨hp ▸ .java hk hj, hf⟩
  · next q hk =>
    obtain ⟨hp, hf⟩ := isOf_of_mem_add (Node.offers_prebuilt hk) h
    exact ⟨hp ▸ .prebuilt hk, hf⟩
  all_goals simp [report] at h

theorem exists_mem_direct (settings : Settings) (h : Brings tag n p)
    (hf : n.Fits b.setsSystemApart) :
    ∃ f ∈ (direct settings b {} tag n).2.files, f.builtFile = p := by
  cases h with
  | library hk =>
    rw [direct_library _ hk]
    exact exists_mem_add (Node.offers_library hk) hf
  | binary hk hn =>
    rw [direct_binary _ hk hn]
    exact exists_mem_add (Node.offers_binary hk) hf
  | script hk =>
    rw [direct_script _ hk]
    exact exists_mem_add (Node.offers_script hk) hf
  | java hk hj =>
    rw [direct_compiled _ hk hj]
    exact exists_mem_add (Node.offers_java hk hj) hf
  | prebuilt hk =>
    rw [direct_prebuilt _ hk]
    exact exists_mem_add (Node.offers_prebuilt hk) hf

theorem fst_direct :
    (direct settings b {} tag n).1 = true ↔ Opens b.setsSystemApart tag n := by
  constructor
  · intro h
    unfold direct at h
    split at h
    · next l hk => exact .library hk ((fst_add (Node.offers_library hk)).1 h)
    · next x hk =>
      split at h
      · next hn => exact .binary hk hn ((fst_add (Node.offers_binary hk)).1 h)
      · next hn => exact .translated hk (by simpa using hn)
    · simp at h
    · next j hk => exact .java hk
    · next q hk => exact .prebuilt hk ((fst_add (Node.offers_prebuilt hk)).1 h)
    all_goals simp at h
  · intro h
    cases h with
    | library hk hf =>
      rw [direct_library _ hk]
      exact (fst_add (Node.offers_library hk)).2 hf
    | binary hk hn hf =>
      rw [direct_binary _ hk hn]
      exact (fst_add (Node.offers_binary hk)).2 hf
    | translated hk hn => rw [direct_translated _ hk hn]
    | @java n j hk =>
      cases hj : j.dexJar with
      | none => rw [direct_uncompiled _ hk hj]
      | some jar => rw [direct_compiled _ hk hj]
    | prebuilt hk hf =>
      rw [direct_prebuilt _ hk]
      exact (fst_add (Node.offers_prebuilt hk)).2 hf

theorem mem_files_indirect (h : f ∈ (indirect b {} n).2.files) :
    ∃ l, Carried b.setsSystemApart n l ∧ f.builtFile = l.outputFile ∧
      f.IsOf b.setsSystemApart n := by
  unfold indirect at h
  split at h
  · next l hk =>
    split at h
    · next hc =>
      simp only [Bool.and_eq_true, Bool.not_eq_true'] at hc
      obtain ⟨hp, hf⟩ := isOf_of_mem_add (Node.offers_library hk) h
      have hfits := hf.offers.fits_iff.2 ⟨f.inside, f.plain⟩
      exact ⟨l, ⟨hk, hc.1.1, hc.1.2, hc.2, hfits⟩, hp, hf⟩
    · simp at h
  · simp at h

theorem indirect_of_carried {l : NativeLibrary} (h : Carried b.setsSystemApart n l) :
    (indirect b {} n).1 = true ∧ ∃ f ∈ (indirect b {} n).2.files, f.builtFile = l.outputFile := by
  simp only [indirect, h.kind, h.installable, h.not_stubs, h.no_stubs_variants, Bool.not_false,
    Bool.and_self, ite_true]
  exact ⟨(fst_add (Node.offers_library h.kind)).2 h.fits,
    exists_mem_add (Node.offers_library h.kind) h.fits⟩

theorem carried_of_fst_indirect (h : (indirect b {} n).1 = true) :
    ∃ l, Carried b.setsSystemApart n l := by
  unfold indirect at h
  split at h
  · next l hk =>
    split at h
    · next hc =>
      simp only [Bool.and_eq_true, Bool.not_eq_true'] at hc
      exact ⟨l, hk, hc.1.1, hc.1.2, hc.2, (fst_add (Node.offers_library hk)).1 h⟩
    · simp at h
  · simp at h

end Findings

/-- A step from a module to a library that it needs and that comes along with it. -/
def BringsAlong (g : ModuleGraph) (setSystemApart : Bool) (x y : NodeKey) : Prop :=
  (∃ e ∈ g.dependencies x, e.child = y) ∧
    ∃ n l, g.node? y = some n ∧ Carried setSystemApart n l

/-- Whether a bundle embeds a built file: that of a direct dependency, or that of a library that
is needed below one, through libraries that come along themselves. -/
inductive Embeds (g : ModuleGraph) (b : BundleModule) : Path → Prop
  | direct {e : Edge} {n : Node} {p : Path} : e ∈ g.dependencies b.id → g.node? e.child = some n →
      Brings e.tag n p → n.Fits b.setsSystemApart → Embeds g b p
  | carried {e : Edge} {n m : Node} {y : NodeKey} {l : NativeLibrary} :
      e ∈ g.dependencies b.id → g.node? e.child = some n → Opens b.setsSystemApart e.tag n →
      Relation.TransGen (BringsAlong g b.setsSystemApart) e.child y → g.node? y = some m →
      m.kind = .library l → Embeds g b l.outputFile

theorem Embeds.mono {g g' : ModuleGraph} {b : BundleModule} {p : Path}
    (hm : g'.members = g.members)
    (hd : ∀ id, ∀ e ∈ g.dependencies id, e ∈ g'.dependencies id) (h : Embeds g b p) :
    Embeds g' b p := by
  have hn := ModuleGraph.node?_congr hm
  cases h with
  | direct he hc hb hf => exact .direct (hd _ _ he) (by rw [hn, hc]) hb hf
  | carried he hc ho hy hl hk =>
    refine .carried (hd _ _ he) (by rw [hn, hc]) ho ?_ (by rw [hn, hl]) hk
    refine hy.lift id fun x z hxz => ?_
    obtain ⟨⟨d, hd', hz⟩, n, l, hz', hcar⟩ := hxz
    exact ⟨⟨d, hd _ _ hd', hz⟩, n, l, by rw [id, hn, hz'], hcar⟩

namespace Findings

variable {g : ModuleGraph} {settings : Settings} {b : BundleModule} {e : Edge} {n : Node}

theorem visit_direct (settings : Settings) (hp : e.parent = b.id)
    (hn : g.node? e.child = some n) (s : Findings) :
    visit g settings b s e = direct settings b s e.tag n := by
  simp [visit, hn, hp]

theorem visit_indirect (settings : Settings) (hp : e.parent ≠ b.id)
    (hn : g.node? e.child = some n) (s : Findings) :
    visit g settings b s e = indirect b s n := by
  simp [visit, hn, hp]

theorem note_of_node?_eq_none (hn : g.node? e.child = none) : note g settings b e = {} := by
  simp [note, visit, hn]

theorem node?_of_opens (h : opens g settings b e = true) : ∃ n, g.node? e.child = some n := by
  cases hn : g.node? e.child with
  | none => simp [opens, visit, hn] at h
  | some n => exact ⟨n, rfl⟩

theorem mem_files_ofBundle {f : PackagedFile} :
    f ∈ (ofBundle g settings b).files ↔
      ∃ e ∈ edges g settings b, f ∈ (note g settings b e).files := by
  rw [ofBundle_eq, files_foldl_append]
  simp only [List.nil_append, List.flatMap_map, List.mem_flatMap]

theorem exists_source_of_mem_files {f : PackagedFile} (h : f ∈ (ofBundle g settings b).files) :
    ∃ e ∈ edges g settings b, ∃ n, g.node? e.child = some n ∧ f.IsOf b.setsSystemApart n ∧
      (e.parent = b.id ∧ Brings e.tag n f.builtFile ∨
        e.parent ≠ b.id ∧ ∃ l, Carried b.setsSystemApart n l ∧ f.builtFile = l.outputFile) := by
  obtain ⟨e, he, hf⟩ := mem_files_ofBundle.1 h
  cases hn : g.node? e.child with
  | none => simp [note_of_node?_eq_none hn] at hf
  | some n =>
    unfold note at hf
    by_cases hp : e.parent = b.id
    · rw [visit_direct settings hp hn] at hf
      obtain ⟨hbr, hof⟩ := mem_files_direct hf
      exact ⟨e, he, n, hn, hof, .inl ⟨hp, hbr⟩⟩
    · rw [visit_indirect settings hp hn] at hf
      obtain ⟨l, hl, hfl, hof⟩ := mem_files_indirect hf
      exact ⟨e, he, n, hn, hof, .inr ⟨hp, l, hl, hfl⟩⟩

theorem ne_of_opens {id : NodeKey} {tag : Tag} (hb : g.node? b.id = some b.toNode)
    (hn : g.node? id = some n) (h : Opens b.setsSystemApart tag n) : id ≠ b.id := by
  rintro rfl
  rw [hb] at hn
  cases hn
  cases h <;> simp_all [BundleModule.toNode]

theorem ne_of_bringsAlong {x y : NodeKey} (hb : g.node? b.id = some b.toNode)
    (h : BringsAlong g b.setsSystemApart x y) : y ≠ b.id := by
  rintro rfl
  obtain ⟨_, n, l, hn, hl⟩ := h
  rw [hb] at hn
  cases hn
  simpa [BundleModule.toNode] using hl.kind

section Settled

variable (hg : g.Settled)
include hg

theorem mem_edges_iff :
    e ∈ edges g settings b ↔
      e ∈ g.edges ∧ g.Reached (opens g settings b) b.id e.parent := by
  rw [edges, ModuleGraph.mem_shown_iff]
  refine and_congr_right fun he => ?_
  rw [hg.source_eq e he]

theorem mem_edges_of_mem_dependencies (settings : Settings) (he : e ∈ g.dependencies b.id) :
    e ∈ edges g settings b := by
  obtain ⟨hm, hp⟩ := hg.mem_dependencies_iff.1 he
  refine (mem_edges_iff hg).2 ⟨hm, ?_⟩
  have hr : g.Reached (opens g settings b) b.id (g.keyOf b.id) := .root
  rw [hg.keyOf_eq] at hr
  rwa [hp]

/-- A node that the walk enters is the bundle, or lies below a direct dependency at the end of a way
through libraries that come along. -/
theorem eq_or_exists_of_reached {k : NodeKey} (h : g.Reached (opens g settings b) b.id k) :
    k = b.id ∨ ∃ e ∈ g.dependencies b.id, ∃ n, g.node? e.child = some n ∧
      Opens b.setsSystemApart e.tag n ∧
      Relation.ReflTransGen (BringsAlong g b.setsSystemApart) e.child k := by
  induction h with
  | root => exact .inl (hg.keyOf_eq _)
  | @step e _ hm he ih =>
    rw [hg.keyOf_eq]
    rw [hg.source_eq e hm] at ih
    obtain ⟨n, hn⟩ := node?_of_opens he
    unfold opens at he
    right
    by_cases hp : e.parent = b.id
    · rw [visit_direct settings hp hn, fst_direct] at he
      exact ⟨e, hg.mem_dependencies_iff.2 ⟨hm, hp⟩, n, hn, he, .refl⟩
    · rw [visit_indirect settings hp hn] at he
      obtain ⟨l, hl⟩ := carried_of_fst_indirect he
      obtain ⟨d, hd, m, hdm, ho, hway⟩ := ih.resolve_left hp
      exact ⟨d, hd, m, hdm, ho,
        hway.tail ⟨⟨e, hg.mem_dependencies_iff.2 ⟨hm, rfl⟩, rfl⟩, n, l, hn, hl⟩⟩

/-- A file is found on the edge to a direct dependency that brings it, or at the end of a way to a
library that comes along. -/
theorem exists_way_of_mem_files {f : PackagedFile} (h : f ∈ (ofBundle g settings b).files) :
    ∃ e ∈ g.dependencies b.id, ∃ n, f.IsOf b.setsSystemApart n ∧
      (g.node? e.child = some n ∧ Brings e.tag n f.builtFile ∨
        ∃ m y l, g.node? e.child = some m ∧ Opens b.setsSystemApart e.tag m ∧
          Relation.TransGen (BringsAlong g b.setsSystemApart) e.child y ∧
          g.node? y = some n ∧ n.kind = .library l ∧ f.builtFile = l.outputFile) := by
  obtain ⟨e, he, n, hn, hof, ⟨hp, hbr⟩ | ⟨hp, l, hl, hfl⟩⟩ := exists_source_of_mem_files h
  · have hm := ((mem_edges_iff hg).1 he).1
    exact ⟨e, hg.mem_dependencies_iff.2 ⟨hm, hp⟩, n, hof, .inl ⟨hn, hbr⟩⟩
  · obtain ⟨hm, hr⟩ := (mem_edges_iff hg).1 he
    obtain ⟨d, hd, m, hdm, ho, hway⟩ := (eq_or_exists_of_reached hg hr).resolve_left hp
    have hstep : BringsAlong g b.setsSystemApart e.parent e.child :=
      ⟨⟨e, hg.mem_dependencies_iff.2 ⟨hm, rfl⟩, rfl⟩, n, l, hn, hl⟩
    exact ⟨d, hd, n, hof, .inr ⟨m, e.child, l, hdm, ho, .tail' hway hstep, hn, hl.kind, hfl⟩⟩

theorem embeds_of_mem_files {f : PackagedFile} (h : f ∈ (ofBundle g settings b).files) :
    Embeds g b f.builtFile := by
  obtain ⟨e, he, n, hof, ⟨hn, hbr⟩ | ⟨m, y, l, hm, ho, hway, hn, hk, hfl⟩⟩ :=
    exists_way_of_mem_files hg h
  · exact .direct he hn hbr (hof.offers.fits_iff.2 ⟨f.inside, f.plain⟩)
  · rw [hfl]
    exact .carried he hm ho hway hn hk

/-- The walk comes along every way through libraries that come along. -/
theorem reached_of_bringsAlong {x y : NodeKey} (hx : g.Reached (opens g settings b) b.id x)
    (hne : x ≠ b.id) (h : BringsAlong g b.setsSystemApart x y) :
    g.Reached (opens g settings b) b.id y ∧
      ∀ m l, g.node? y = some m → m.kind = .library l →
        ∃ f ∈ (ofBundle g settings b).files, f.builtFile = l.outputFile := by
  obtain ⟨⟨e, he, rfl⟩, n, l, hn, hl⟩ := h
  obtain ⟨hm, rfl⟩ := hg.mem_dependencies_iff.1 he
  obtain ⟨hin, f, hf, hfl⟩ := indirect_of_carried hl
  have hv := visit_indirect settings hne hn {}
  have ho : opens g settings b e = true := by rw [opens, hv, hin]
  have hs := hx
  rw [← hg.source_eq e hm] at hs
  refine ⟨by simpa only [hg.keyOf_eq] using ModuleGraph.Reached.step hs hm ho, ?_⟩
  intro m l' hm' hl'
  rw [hn] at hm'
  cases hm'
  have hll : l = l' := by simpa [hl.kind] using hl'
  subst hll
  exact ⟨f, mem_files_ofBundle.2 ⟨e, (mem_edges_iff hg).2 ⟨hm, hx⟩, by rwa [note, hv]⟩, hfl⟩

theorem exists_mem_files_of_embeds {p : Path} (hb : g.node? b.id = some b.toNode)
    (h : Embeds g b p) :
    ∃ f ∈ (ofBundle g settings b).files, f.builtFile = p := by
  cases h with
  | @direct e n _ he hn hbr hfit =>
    obtain ⟨_, hp⟩ := hg.mem_dependencies_iff.1 he
    obtain ⟨f, hf, hfp⟩ := exists_mem_direct settings hbr hfit
    refine ⟨f, mem_files_ofBundle.2 ⟨e, mem_edges_of_mem_dependencies hg settings he, ?_⟩, hfp⟩
    rwa [note, visit_direct settings hp hn]
  | @carried e n m y l he hn ho hway hy hl =>
    obtain ⟨hm, hp⟩ := hg.mem_dependencies_iff.1 he
    obtain ⟨x, hx, hlast⟩ := Relation.TransGen.tail'_iff.1 hway
    have hopen : opens g settings b e = true := by
      rw [opens, visit_direct settings hp hn]
      exact fst_direct.2 ho
    have hr : g.Reached (opens g settings b) b.id x ∧ x ≠ b.id := by
      clear hlast hway
      induction hx with
      | refl =>
        obtain ⟨_, hroot⟩ := (mem_edges_iff hg).1 (mem_edges_of_mem_dependencies hg settings he)
        rw [← hg.source_eq e hm] at hroot
        exact ⟨by simpa only [hg.keyOf_eq] using ModuleGraph.Reached.step hroot hm hopen,
          ne_of_opens hb hn ho⟩
      | tail _ hstep ih =>
        exact ⟨(reached_of_bringsAlong hg ih.1 ih.2 hstep).1, ne_of_bringsAlong hb hstep⟩
    exact (reached_of_bringsAlong hg hr.1 hr.2 hlast).2 m l hy hl

end Settled

end Findings

end BundleWright
