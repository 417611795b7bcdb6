import BundleWright.Proofs.Architecture
import BundleWright.Proofs.BuiltFiles
import BundleWright.Proofs.PlaceChecks
/-!
Why a file is in a bundle. Main statement: what the bundle does not name is needed by a module whose
file is in the bundle too, or by a translated executable, which is named but has no file there; and
dependencies that are reported bring in nothing.
-/
namespace BundleWright

open Relation

/-- A translated executable that a bundle names. No file is embedded for it. -/
def BundleModule.NamesTranslated (b : BundleModule) (g : ModuleGraph) (k : NodeKey) : Prop :=
  ∃ e ∈ g.dependencies b.id, e.child = k ∧ e.tag = .executable ∧
    ∃ n x, g.node? k = some n ∧ n.kind = .binary x ∧ n.target.native = false

def ModuleGraph.withoutReported (g : ModuleGraph) (s : Settings) (b : BundleModule) : ModuleGraph :=
  { g with edges := g.edges.filter fun e => (Findings.note g s b e).errors.isEmpty }

namespace Findings

variable {s : Settings} {b : BundleModule} {tag : Tag} {n : Node} {p : Path}

theorem errors_direct_of_brings (h : Brings tag n p) (hf : n.Fits b.setsSystemApart) :
    (direct s b {} tag n).2.errors = [] := by
  cases h with
  | library hk =>
    rw [direct_library _ hk]
    exact addLibrary_of_fits hk hf {}
  | binary hk hn =>
    rw [direct_binary _ hk hn]
    exact (add_of_fits (Node.offers_binary hk) hf {}).2
  | script hk =>
    rw [direct_script _ hk]
    dsimp only
    rw [(add_of_fits (Node.offers_script hk) hf {}).2]
  | java hk hj =>
    rw [direct_compiled _ hk hj]
    dsimp only
    rw [(add_of_fits (Node.offers_java hk hj) hf {}).2]
  | prebuilt hk =>
    rw [direct_prebuilt _ hk]
    exact (add_of_fits (Node.offers_prebuilt hk) hf {}).2

theorem errors_direct_of_keyFile (h : (direct s b {} tag n).2.keyFile = some p) :
    (direct s b {} tag n).2.errors = [] := by
  obtain ⟨rfl, k, hk, _⟩ := keyFile_direct.1 h
  unfold direct
  simp only [hk]

end Findings

theorem Opens.brings_or_translated {setSystemApart : Bool} {tag : Tag} {n : Node}
    (h : Opens setSystemApart tag n) (hn : n.isNative = true) :
    (∃ p, Brings tag n p ∧ n.Fits setSystemApart) ∨
      tag = .executable ∧ ∃ x, n.kind = .binary x ∧ n.target.native = false := by
  cases h with
  | library hk hf => exact .inl ⟨_, .library hk, hf⟩
  | binary hk ht hf => exact .inl ⟨_, .binary hk ht, hf⟩
  | translated hk ht => exact .inr ⟨rfl, _, hk, ht⟩
  | java hk | prebuilt hk => simp [Node.isNative, hk] at hn

theorem Brings.builtFile? {tag : Tag} {n : Node} {p : Path} (h : Brings tag n p) :
    n.builtFile? = some p := by
  cases h with
  | java hk hj => simp [Node.builtFile?, hk, hj]
  | library hk | binary hk | script hk | prebuilt hk => simp [Node.builtFile?, hk]

namespace Workspace

/-- The graphs that come of a workspace when edges are added for its bundles and variants are made,
in any order and as often as may be. -/
inductive Grown (w : Workspace) : ModuleGraph → Prop
  | start : Grown w w.graph
  | addEdges {g : ModuleGraph} {b : BundleModule} (s : Settings) : Grown w g → b ∈ w.bundles →
      Grown w (g.addBundleDependencies b s).1
  | makeVariants {g : ModuleGraph} (table : InstallTable) : Grown w g →
      Grown w (g.propagate w.bundles table).1

structure Extends (w : Workspace) (g : ModuleGraph) : Prop where
  settled : g.Settled
  members : g.members = w.graph.members
  edges : ∀ e ∈ g.edges, e ∈ w.graph.edges ∨ ∃ b ∈ w.bundles, e.parent = b.id

variable {doc : Datum} {ds : List Declaration} {s₀ s : Settings} {dir : Path} {w w' : Workspace}
  {tree : FileTree} {names : List String} {a : Assembly} {g : ModuleGraph} {b : BundleModule}
  {c : Collection} {e : Edge}

theorem Grown.extends (hs : w.Sound) (h : w.Grown g) : w.Extends g := by
  induction h with
  | start => exact ⟨hs.settled, rfl, fun e he => .inl he⟩
  | @addEdges g b s _ hb ih =>
    rw [ModuleGraph.addBundleDependencies_eq]
    refine ⟨ih.settled.of_members_eq rfl fun e he => ?_, ih.members, fun e he => ?_⟩
    · rcases List.mem_append.1 he with he | he
      · exact ih.settled.source_eq e he
      · obtain ⟨hp, hsource⟩ := ModuleGraph.parent_of_mem_bundleEdges he
        rw [hp, hsource, ih.settled.keyOf_eq]
    · rcases List.mem_append.1 he with he | he
      · exact ih.edges e he
      · exact .inr ⟨b, hb, (ModuleGraph.parent_of_mem_bundleEdges he).1⟩
  | makeVariants table _ ih =>
    obtain ⟨hm, he⟩ := ModuleGraph.propagate_frame _ w.bundles table
    exact ⟨ih.settled.of_members_eq hm (he ▸ ih.settled.source_eq), hm.trans ih.members,
      he ▸ ih.edges⟩

theorem Grown.addAll {bs : List BundleModule} (h : w.Grown g) (hb : ∀ b ∈ bs, b ∈ w.bundles) :
    w.Grown (g.addAllBundleDependencies s bs).1 := by
  induction bs generalizing g with
  | nil => exact h
  | cons b bs ih =>
    exact ih (h.addEdges s (hb b List.mem_cons_self)) fun c hc => hb c (List.mem_cons_of_mem b hc)

theorem Grown.of_assemble (h : w.assemble s tree names = (w', .ok a)) : w.Grown w'.graph := by
  obtain ⟨_, _, hg, _⟩ := assemble_eq_ok h
  have hadd := Grown.makeVariants {} ((Grown.start (w := w)).addAll (s := s) fun _ hb => hb)
  rw [ModuleGraph.addAllBundleDependencies_eq] at hadd
  rwa [hg]

theorem Extends.withoutReported (hg : w.Extends g) (s : Settings) (b : BundleModule) :
    w.Extends (g.withoutReported s b) :=
  ⟨hg.settled.of_members_eq rfl fun e he => hg.settled.source_eq e (List.mem_filter.1 he).1,
    hg.members, fun e he => hg.edges e (List.mem_filter.1 he).1⟩

theorem Extends.mem_dependencies_withoutReported (hg : w.Extends g) {k : NodeKey} :
    e ∈ (g.withoutReported s b).dependencies k ↔
      e ∈ g.dependencies k ∧ (Findings.note g s b e).errors = [] := by
  rw [(hg.withoutReported s b).settled.mem_dependencies_iff, hg.settled.mem_dependencies_iff,
    ModuleGraph.withoutReported, List.mem_filter, List.isEmpty_iff]
  exact and_right_comm

/-- The file of a module is held for the module itself or for one that is built to the same file. -/
theorem Extends.exists_holder (hk : ∀ d ∈ ds, d.Keeps) (hw : ofDeclarations ds s₀ dir = .ok w)
    (hg : w.Extends g) (hc : Collection.ofBundle g b s = .ok c)
    {k : NodeKey} {n : Node} (hn : g.node? k = some n) {p : Path} (hp : n.builtFile? = some p)
    (hmem : p ∈ c.files.map (·.builtFile)) :
    ∃ held ∈ c.files, n.builtFile? = some held.builtFile ∧ (held.owner = some k ∨
      ∃ id m, held.owner = some id ∧ g.node? id = some m ∧ n.Meet ds s₀ m) := by
  obtain ⟨held, hheld, rfl⟩ := List.mem_map.1 hmem
  obtain ⟨id, m, hm, hof⟩ := Collection.exists_isOf hc hheld
  have hown : held.owner = some id := by rw [hof.owner, hg.settled.key_of_node? hm]
  refine ⟨held, hheld, hp, ?_⟩
  by_cases hid : id = k
  · exact .inl (hid ▸ hown)
  · have hin := hg.members ▸ ModuleGraph.mem_of_node? hn
    have hin' := hg.members ▸ ModuleGraph.mem_of_node? hm
    have hne : (⟨k, n⟩ : Member) ≠ ⟨id, m⟩ := fun he => hid (congrArg Member.id he).symm
    exact .inr ⟨id, m, hown, hm,
      (builtFile_eq_iff hw hk hin hin' hne hp hof.offers.builtFile).1 rfl⟩

section Sound

variable (hs : w.Sound) (hg : w.Extends g)
include hs hg

theorem Extends.fits {id : NodeKey} {n : Node} (hn : g.node? id = some n) (setSystemApart : Bool) :
    n.Fits setSystemApart :=
  hs.fits _ (hg.members ▸ ModuleGraph.mem_of_node? hn) setSystemApart

theorem Extends.errors_note_indirect (he : e.parent ≠ b.id) :
    (Findings.note g s b e).errors = [] := by
  cases hn : g.node? e.child with
  | none => rw [Findings.note_of_node?_eq_none hn]
  | some n =>
    rw [Findings.note, Findings.visit_indirect s he hn]
    exact Findings.errors_indirect (hg.fits hs hn _)

variable (hb : b ∈ w.bundles)
include hb

theorem Extends.node?_bundle : g.node? b.id = some b.toNode := by
  rw [ModuleGraph.node?_congr hg.members, hs.bundles b hb]

theorem Extends.mem_of_namesTranslated (hc : Collection.ofBundle g b s = .ok c) {k : NodeKey}
    (hk : b.NamesTranslated g k) (he : e ∈ g.dependencies k) {m : Node} {l : NativeLibrary}
    (hm : g.node? e.child = some m) (hl : Carried b.setsSystemApart m l) :
    l.outputFile ∈ c.files.map (·.builtFile) := by
  obtain ⟨d, hd, rfl, htag, n, x, hn, hx, ht⟩ := hk
  refine (Collection.mem_builtFiles_iff hg.settled (hg.node?_bundle hs hb) hc).2 ?_
  exact .carried hd hn (htag ▸ .translated hx ht) (.single ⟨⟨e, he, rfl⟩, m, l, hm, hl⟩) hm hl.kind

theorem Extends.way_withoutReported {x y : NodeKey} (hx : x ≠ b.id)
    (h : TransGen (BringsAlong g b.setsSystemApart) x y) :
    TransGen (BringsAlong (g.withoutReported s b) b.setsSystemApart) x y := by
  have hstep {u v : NodeKey} (hu : u ≠ b.id) (huv : BringsAlong g b.setsSystemApart u v) :
      BringsAlong (g.withoutReported s b) b.setsSystemApart u v := by
    obtain ⟨⟨e, he, rfl⟩, hl⟩ := huv
    have hp : e.parent ≠ b.id := by rwa [(hg.settled.mem_dependencies_iff.1 he).2]
    have hnote := hg.errors_note_indirect (s := s) hs hp
    exact ⟨⟨e, hg.mem_dependencies_withoutReported.2 ⟨he, hnote⟩, rfl⟩, hl⟩
  induction h with
  | single h => exact .single (hstep hx h)
  | @tail u v hway h ih =>
    refine .tail ih (hstep ?_ h)
    obtain ⟨z, _, hz⟩ := TransGen.tail'_iff.1 hway
    exact Findings.ne_of_bringsAlong (hg.node?_bundle hs hb) hz

end Sound

section Declared

variable (hs : w.Sound) (hw : ofDeclarations ds s₀ dir = .ok w) (hg : w.Extends g)
include hs hw hg

theorem Extends.isNative_parent (he : e ∈ g.edges) {n m : Node} (hn : g.node? e.parent = some n)
    (hb : n.bundle? = none) (hm : g.node? e.child = some m) (hnative : m.isNative = true) :
    n.isNative = true := by
  rcases hg.edges e he with he | ⟨b, hmem, hp⟩
  · obtain ⟨x, hx, hlink⟩ := hs.links e he
    rw [← ModuleGraph.linksOf_congr hg.members] at hlink
    obtain ⟨m', hlink⟩ := hg.settled.exists_linked (hg.members ▸ hx) hlink
    have hparent := hlink.parent
    rw [hn, Option.some.injEq] at hparent
    have hchild := hlink.child
    rw [hm, Option.some.injEq] at hchild
    rw [hparent]
    exact ((alike_of_linked hw hg.members hlink).2 (hchild ▸ hnative)).1
  · rw [hp, hg.node?_bundle hs hmem] at hn
    cases hn
    cases hb

theorem Extends.brings_or_translated {d : Edge} {n m : Node} {x : NodeKey}
    (hd : g.node? d.child = some n) (hopen : Opens b.setsSystemApart d.tag n)
    (he : e ∈ g.dependencies d.child) (hx : e.child = x) (hm : g.node? x = some m)
    (hnative : m.isNative = true) :
    (∃ p, Brings d.tag n p ∧ n.Fits b.setsSystemApart) ∨
      d.tag = .executable ∧ ∃ y, n.kind = .binary y ∧ n.target.native = false := by
  obtain ⟨hedge, hp⟩ := hg.settled.mem_dependencies_iff.1 he
  exact hopen.brings_or_translated
    (hg.isNative_parent hs hw hedge (hp ▸ hd) hopen.bundle? (hx ▸ hm) hnative)

variable (hb : b ∈ w.bundles)
include hb

/-- A module from which a library comes along is one that the bundle names or a library that comes
along itself, so its file is in the bundle unless it is a translated executable. -/
theorem Extends.holds_parent (hc : Collection.ofBundle g b s = .ok c)
    (he : e ∈ Findings.edges g s b) (hp : e.parent ≠ b.id) {n : Node} {l : NativeLibrary}
    (hn : g.node? e.child = some n) (hl : Carried b.setsSystemApart n l) :
    ∃ m, g.node? e.parent = some m ∧ (b.NamesTranslated g e.parent ∨
      ∃ p, m.builtFile? = some p ∧ p ∈ c.files.map (·.builtFile)) := by
  have hbn := hg.node?_bundle hs hb
  obtain ⟨hm, hr⟩ := (Findings.mem_edges_iff hg.settled).1 he
  have hdep : e ∈ g.dependencies e.parent := hg.settled.mem_dependencies_iff.2 ⟨hm, rfl⟩
  obtain ⟨d, hd, m, hdm, hopen, hway⟩ :=
    (Findings.eq_or_exists_of_reached hg.settled hr).resolve_left hp
  rcases hway.cases_tail with heq | ⟨x, hway, hstep⟩
  · rw [heq] at hdep ⊢
    refine ⟨m, hdm, ?_⟩
    rcases hg.brings_or_translated hs hw hdm hopen hdep rfl hn hl.isNative with
      ⟨p, hbr, hf⟩ | ⟨htag, y, hk, ht⟩
    · exact .inr ⟨p, hbr.builtFile?,
        (Collection.mem_builtFiles_iff hg.settled hbn hc).2 (.direct hd hdm hbr hf)⟩
    · exact .inl ⟨d, hd, rfl, htag, m, y, hdm, hk, ht⟩
  · obtain ⟨m', l', hm', hl'⟩ := hstep.2
    refine ⟨m', hm', .inr ⟨l'.outputFile, by simp [Node.builtFile?, hl'.kind], ?_⟩⟩
    exact (Collection.mem_builtFiles_iff hg.settled hbn hc).2
      (.carried hd hdm hopen (.tail' hway hstep) hm' hl'.kind)

/-- Without the edges that are reported the same files are embedded. -/
theorem Extends.embeds_withoutReported_iff {p : Path} :
    Embeds (g.withoutReported s b) b p ↔ Embeds g b p := by
  have hnote {e : Edge} {n : Node} (he : e ∈ g.dependencies b.id) (hn : g.node? e.child = some n)
      (herr : (Findings.direct s b {} e.tag n).2.errors = []) :
      e ∈ (g.withoutReported s b).dependencies b.id := by
    refine hg.mem_dependencies_withoutReported.2 ⟨he, ?_⟩
    rwa [Findings.note, Findings.visit_direct s (hg.settled.mem_dependencies_iff.1 he).2 hn]
  constructor
  · exact .mono rfl fun id e he => (hg.mem_dependencies_withoutReported.1 he).1
  · intro h
    cases h with
    | direct he hn hbr hf =>
      exact .direct (hnote he hn (Findings.errors_direct_of_brings hbr hf)) hn hbr hf
    | @carried e n m y l he hn hopen hway hy hl =>
      have hne := Findings.ne_of_opens (hg.node?_bundle hs hb) hn hopen
      refine .carried (hnote he hn ?_) hn hopen (hg.way_withoutReported hs hb hne hway) hy hl
      obtain ⟨z, ⟨⟨d, hd, hz⟩, m', l', hm', hl'⟩, _⟩ := TransGen.head'_iff.1 hway
      rcases hg.brings_or_translated hs hw hn hopen hd hz hm' hl'.isNative with
        ⟨p, hbr, hf⟩ | ⟨htag, x, hk, ht⟩
      · exact Findings.errors_direct_of_brings hbr hf
      · rw [htag, Findings.direct_translated _ hk ht]

theorem Extends.exists_withoutReported (hc : Collection.ofBundle g b s = .ok c) :
    ∃ c', Collection.ofBundle (g.withoutReported s b) b s = .ok c' ∧
      c'.files.map (·.builtFile) = c.files.map (·.builtFile) := by
  have hg' := hg.withoutReported s b
  obtain ⟨hkey, _⟩ := Collection.ofBundle_eq_ok hc
  obtain ⟨e, he, n, hn, hkey⟩ := Findings.decidedLast_keyFile.exists_edge hg.settled hkey
  have hleft : e ∈ (g.withoutReported s b).dependencies b.id := by
    refine hg.mem_dependencies_withoutReported.2 ⟨he, ?_⟩
    rw [Findings.note, Findings.visit_direct s (hg.settled.mem_dependencies_iff.1 he).2 hn]
    exact Findings.errors_direct_of_keyFile hkey
  obtain ⟨htag, k, hk, _⟩ := Findings.keyFile_direct.1 hkey
  obtain ⟨c', hc'⟩ := Collection.exists_of_keyEdge s hg'.settled hleft htag hn hk
  refine ⟨c', hc', Collection.map_builtFile_eq hc hc' fun p => ?_⟩
  rw [Collection.mem_builtFiles_iff hg'.settled (hg'.node?_bundle hs hb) hc',
    Collection.mem_builtFiles_iff hg.settled (hg.node?_bundle hs hb) hc,
    hg.embeds_withoutReported_iff hs hw hb]

end Declared

/-- Why a file is in a bundle: its owner is named by the bundle, or is needed by a module whose file
is in the bundle (for that module or for one that is built to the same file), or by a translated
executable that the bundle names; and such an executable brings in whatever libraries it needs.
Dependencies that are reported bring in nothing. -/
theorem embedded_for_a_reason (hd : Declaration.readDocument doc = .sound ds)
    (hw : ofDeclarations ds s₀ dir = .ok w) (hg : w.Grown g) (hb : b ∈ w.bundles)
    (hc : Collection.ofBundle g b s = .ok c) :
    (∀ f ∈ c.files, ∃ k, f.owner = some k ∧ ((∃ e ∈ g.dependencies b.id, e.child = k) ∨
      ∃ e ∈ g.edges, e.child = k ∧ (b.NamesTranslated g e.parent ∨
        ∃ n, g.node? e.parent = some n ∧ ∃ held ∈ c.files, n.builtFile? = some held.builtFile ∧
          (held.owner = some e.parent ∨
            ∃ id m, held.owner = some id ∧ g.node? id = some m ∧ n.Meet ds s₀ m)))) ∧
    (∀ k, b.NamesTranslated g k → ∀ e ∈ g.dependencies k, ∀ m l, g.node? e.child = some m →
      Carried b.setsSystemApart m l → l.outputFile ∈ c.files.map (·.builtFile)) ∧
    ∃ c', Collection.ofBundle (g.withoutReported s b) b s = .ok c' ∧
      c'.files.map (·.builtFile) = c.files.map (·.builtFile) := by
  have hk := Declaration.keeps_of_readDocument hd
  have hs := sound_of_ofDeclarations hk hw
  have hx := hg.extends hs
  refine ⟨fun f hf => ?_, fun k hk e he m l hm hl => hx.mem_of_namesTranslated hs hb hc hk he hm hl,
    hx.exists_withoutReported hs hw hb hc⟩
  obtain ⟨e, he, n, hn, hof, hsource⟩ := Collection.exists_source hc hf
  refine ⟨e.child, by rw [hof.owner, hx.settled.key_of_node? hn], ?_⟩
  have hedge := ((Findings.mem_edges_iff hx.settled).1 he).1
  rcases hsource with ⟨hp, _⟩ | ⟨hp, l, hl, _⟩
  · exact .inl ⟨e, hx.settled.mem_dependencies_iff.2 ⟨hedge, hp⟩, rfl⟩
  · refine .inr ⟨e, hedge, rfl, ?_⟩
    obtain ⟨m, hm, htranslated | ⟨p, hfile, hmem⟩⟩ := hx.holds_parent hs hw hb hc he hp hn hl
    · exact .inl htranslated
    · exact .inr ⟨m, hm, hx.exists_holder hk hw hc hm hfile hmem⟩

end Workspace

def translatedTool : Datum := .obj [("modules", .arr [
  .obj [("type", .str "cc_library"), ("name", .str "l")],
  .obj [("type", .str "cc_binary"), ("name", .str "t"), ("shared_libs", .arr [.str "l"])],
  .obj [("type", .str "apex_key"), ("name", .str "k"), ("public_key", .str "p"),
    ("private_key", .str "q")],
  .obj [("type", .str "apex"), ("name", .str "z"), ("key", .str "k"),
    ("multilib", .obj [("both", .obj [("binaries", .arr [.str "t"])])]),
    ("payload_type", .str "zip")]])]

def translatedSettings : Settings where
  sourceRoot := .here
  outDir := .here
  installRoot := .here
  targets := [.x86_64]
  nativeBridgeTargets := [.arm64]

theorem exists_outcome_translatedTool :
    ∃ o ∈ Workspace.outcomesOf translatedTool translatedSettings .here {}, o.ok = true := by
  decide +kernel

namespace Workspace

theorem embedded_for_a_reason_translatedTool :
    ∃ ds w w' a o c, Declaration.readDocument translatedTool = .sound ds ∧
      ofDeclarations ds translatedSettings .here = .ok w ∧
      w.assemble translatedSettings {} [] = (w', .ok a) ∧ o ∈ a.outcomes ∧
      Collection.ofBundle w'.graph o.bundle translatedSettings = .ok c ∧
      ∀ f ∈ c.files, ∃ k, f.owner = some k ∧
        ((∃ e ∈ w'.graph.dependencies o.bundle.id, e.child = k) ∨
          ∃ e ∈ w'.graph.edges, e.child = k ∧ (o.bundle.NamesTranslated w'.graph e.parent ∨
            ∃ n, w'.graph.node? e.parent = some n ∧
              ∃ held ∈ c.files, n.builtFile? = some held.builtFile)) := by
  obtain ⟨ds, w, w', a, o, plan, hd, hw, ha, ho, _, hp⟩ := exists_plan exists_outcome_translatedTool
  have hs := sound_of_ofDeclarations (Declaration.keeps_of_readDocument hd) hw
  obtain ⟨hb, _, c, _, hc, _⟩ := exists_of_outcome hs ha ho hp
  have hg := Grown.of_assemble ha
  obtain ⟨hfiles, _⟩ := embedded_for_a_reason hd hw hg hb hc
  refine ⟨ds, w, w', a, o, c, hd, hw, ha, ho, hc, fun f hf => ?_⟩
  obtain ⟨k, hk, hnamed | ⟨e, he, hchild, htranslated | ⟨n, hn, held, hheld, hfile, _⟩⟩⟩ :=
    hfiles f hf
  · exact ⟨k, hk, .inl hnamed⟩
  · exact ⟨k, hk, .inr ⟨e, he, hchild, .inl htranslated⟩⟩
  · exact ⟨k, hk, .inr ⟨e, he, hchild, .inr ⟨n, hn, held, hheld, hfile⟩⟩⟩

/-- The library is embedded for the translated target too, where the executable that needs it is
not. -/
theorem orphan_embedded_translatedTool :
    ∃ ds w w' a o plan, Declaration.readDocument translatedTool = .sound ds ∧
      ofDeclarations ds translatedSettings .here = .ok w ∧
      w.assemble translatedSettings {} [] = (w', .ok a) ∧ o ∈ a.outcomes ∧ o.ok = true ∧
      o.result = .ok plan ∧
      ∃ c, Collection.ofBundle w'.graph o.bundle translatedSettings = .ok c ∧
        ∃ f ∈ c.files, ∃ k, f.owner = some k ∧
          (∀ e ∈ w'.graph.dependencies o.bundle.id, e.child ≠ k) ∧
          ∀ e ∈ w'.graph.edges, e.child = k → ∀ held ∈ c.files, held.owner ≠ some e.parent := by
  have hfact : ∀ w ∈ (ofDocument? translatedTool translatedSettings .here).toList,
      ∀ b ∈ w.bundles,
        let g := (w.graph.addAllBundleDependencies translatedSettings w.bundles).1
        let found := PackagedFile.dropRepeated (Findings.ofBundle g translatedSettings b).files
        ∃ f ∈ found, ∃ m ∈ w.graph.members, f.owner = some m.id ∧
          (∀ e ∈ g.dependencies b.id, e.child ≠ m.id) ∧
          ∀ e ∈ g.edges, e.child = m.id → ∀ held ∈ found, held.owner ≠ some e.parent := by
    decide +kernel
  obtain ⟨ds, w, w', a, o, plan, hd, hw, ha, ho, hok, hp⟩ :=
    exists_plan exists_outcome_translatedTool
  have hs := sound_of_ofDeclarations (Declaration.keeps_of_readDocument hd) hw
  obtain ⟨hb, _, c, _, hc, _⟩ := exists_of_outcome hs ha ho hp
  obtain ⟨f, hf, m, _, hown, hdirect, hedges⟩ :=
    hfact w (Option.mem_toList.2 (ofDocument?_eq_some.2 ⟨ds, hd, hw⟩)) _ hb
  obtain ⟨hm, he⟩ := frame_of_assemble ha
  rw [← findings_of_assemble ha] at hf hedges
  rw [← ModuleGraph.dependencies_congr hm he] at hdirect
  rw [← he] at hedges
  have hfiles := Collection.files_of_ofBundle hc
  refine ⟨ds, w, w', a, o, plan, hd, hw, ha, ho, hok, hp, c, hc,
    f.withModuleName (o.bundle.name ++ "." ++ f.moduleName), ?_, m.id, hown, hdirect, ?_⟩
  · rw [hfiles]
    exact Collection.mem_normalised_iff.2 ⟨f, hf, rfl⟩
  · intro e hin hchild held hheld
    rw [hfiles] at hheld
    obtain ⟨kept, hkept, rfl⟩ := Collection.mem_normalised_iff.1 hheld
    exact hedges e hin hchild kept hkept

end Workspace

end BundleWright
