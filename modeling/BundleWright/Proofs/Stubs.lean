import BundleWright.Proofs.Assembly
/-!
Stubs in a bundle. Main statement: no stub comes into a bundle because other modules need it, but
one that the bundle names is embedded like any other library.
-/
namespace BundleWright

def Node.isStub (n : Node) : Bool :=
  match n.kind with
  | .library l => l.isStubs
  | _ => false

theorem Node.exists_of_isStub {n : Node} (h : n.isStub = true) :
    ∃ l, n.kind = .library l ∧ l.isStubs = true := by
  unfold isStub at h
  split at h
  · next l hk => exact ⟨l, hk, h⟩
  · cases h

theorem Carried.not_isStub {setSystemApart : Bool} {n : Node} {l : NativeLibrary}
    (h : Carried setSystemApart n l) : n.isStub = false := by
  simp [Node.isStub, h.kind, h.not_stubs]

theorem Brings.tag_of_isStub {tag : Tag} {n : Node} {p : Path} (h : Brings tag n p)
    (hn : n.isStub = true) : tag = .sharedLib := by
  cases h with
  | library => rfl
  | binary hk | script hk | java hk | prebuilt hk => simp [Node.isStub, hk] at hn

namespace Collection

variable {g : ModuleGraph} {settings : Settings} {b : BundleModule} {c : Collection}

/-- A file of a stub comes from an edge by which the bundle names a library; and each stub that the
bundle names so is embedded if it can be put in its place. -/
theorem stubs_embedded_iff_named (h : ofBundle g b settings = .ok c) :
    (∀ f ∈ c.files, ∃ e ∈ g.edges, ∃ n, g.node? e.child = some n ∧ f.IsOf b.setsSystemApart n ∧
      (n.isStub = true → e.parent = b.id ∧ e.tag = .sharedLib)) ∧
    ∀ e ∈ g.dependencies b.id, e.parent = b.id → e.tag = .sharedLib → ∀ n,
      g.node? e.child = some n → n.isStub = true → n.Fits b.setsSystemApart →
        ∀ p ∈ n.builtFile?, p ∈ c.files.map (·.builtFile) := by
  constructor
  · intro f hf
    obtain ⟨e, he, n, hn, hof, hsource⟩ := exists_source h hf
    refine ⟨e, (ModuleGraph.mem_shown_iff.1 he).1, n, hn, hof, fun hstub => ?_⟩
    rcases hsource with ⟨hp, hbr⟩ | ⟨_, l, hl, _⟩
    · exact ⟨hp, hbr.tag_of_isStub hstub⟩
    · rw [hl.not_isStub] at hstub
      cases hstub
  · intro e he hp htag n hn hstub hfit p hfile
    obtain ⟨l, hk, _⟩ := Node.exists_of_isStub hstub
    have hbr : Brings e.tag n p := by
      rw [htag]
      simp only [Node.builtFile?, hk, Option.mem_def, Option.some.injEq] at hfile
      exact hfile ▸ .library hk
    exact mem_builtFiles_of_brings h he hp hn hbr hfit

end Collection

def namedStub : Datum := .obj [("modules", .arr [
  .obj [("type", .str "llndk_library"), ("name", .str "a")],
  .obj [("type", .str "apex_key"), ("name", .str "k"), ("public_key", .str "p"),
    ("private_key", .str "q")],
  .obj [("type", .str "apex"), ("name", .str "z"), ("key", .str "k"),
    ("native_shared_libs", .arr [.str "a"]), ("payload_type", .str "zip")]])]

theorem exists_outcome_namedStub :
    ∃ o ∈ Workspace.outcomesOf namedStub sharedStemSettings .here {}, o.ok = true := by
  decide +kernel

namespace Workspace

theorem stubs_embedded_iff_named_namedStub :
    ∃ ds w w' a o c, Declaration.readDocument namedStub = .sound ds ∧
      ofDeclarations ds sharedStemSettings .here = .ok w ∧
      w.assemble sharedStemSettings {} [] = (w', .ok a) ∧ o ∈ a.outcomes ∧
      Collection.ofBundle w'.graph o.bundle sharedStemSettings = .ok c ∧
      ∀ f ∈ c.files, ∃ e ∈ w'.graph.edges, ∃ n, w'.graph.node? e.child = some n ∧
        f.owner = some n.key ∧ (n.isStub = true → e.parent = o.bundle.id) := by
  obtain ⟨ds, w, w', a, o, plan, hd, hw, ha, ho, _, hp⟩ := exists_plan exists_outcome_namedStub
  have hs := sound_of_ofDeclarations (Declaration.keeps_of_readDocument hd) hw
  obtain ⟨_, _, c, _, hc, _⟩ := exists_of_outcome hs ha ho hp
  obtain ⟨hfiles, _⟩ := Collection.stubs_embedded_iff_named hc
  refine ⟨ds, w, w', a, o, c, hd, hw, ha, ho, hc, fun f hf => ?_⟩
  obtain ⟨e, he, n, hn, hof, hnamed⟩ := hfiles f hf
  exact ⟨e, he, n, hn, hof.owner, fun hstub => (hnamed hstub).1⟩

/-- The one file of the bundle belongs to a stub. -/
theorem stub_embedded_namedStub :
    ∃ ds w w' a o plan, Declaration.readDocument namedStub = .sound ds ∧
      ofDeclarations ds sharedStemSettings .here = .ok w ∧
      w.assemble sharedStemSettings {} [] = (w', .ok a) ∧ o ∈ a.outcomes ∧ o.ok = true ∧
      o.result = .ok plan ∧ ∃ c, Collection.ofBundle w'.graph o.bundle sharedStemSettings = .ok c ∧
        ∃ f ∈ c.files, ∃ id n, f.owner = some id ∧ w'.graph.node? id = some n ∧
          n.isStub = true := by
  have hfact : ∀ w ∈ (ofDocument? namedStub sharedStemSettings .here).toList, ∀ b ∈ w.bundles,
      ∃ f ∈ PackagedFile.dropRepeated (Findings.ofBundle
        (w.graph.addAllBundleDependencies sharedStemSettings w.bundles).1 sharedStemSettings
        b).files, ∃ m ∈ w.graph.members, f.owner = some m.id ∧ m.node.isStub = true := by
    decide +kernel
  obtain ⟨ds, w, w', a, o, plan, hd, hw, ha, ho, hok, hp⟩ := exists_plan exists_outcome_namedStub
  have hs := sound_of_ofDeclarations (Declaration.keeps_of_readDocument hd) hw
  have hg := assembled_of_assemble hs ha
  obtain ⟨hb, _, c, _, hc, _⟩ := exists_of_outcome hs ha ho hp
  obtain ⟨f, hf, m, hm, hown, hstub⟩ :=
    hfact w (Option.mem_toList.2 (ofDocument?_eq_some.2 ⟨ds, hd, hw⟩)) _ hb
  rw [← findings_of_assemble ha] at hf
  refine ⟨ds, w, w', a, o, plan, hd, hw, ha, ho, hok, hp, c, hc,
    f.withModuleName (o.bundle.name ++ "." ++ f.moduleName), ?_, m.id, m.node, hown,
    hg.settled.node?_eq (hg.members ▸ hm), hstub⟩
  rw [Collection.files_of_ofBundle hc]
  exact Collection.mem_normalised_iff.2 ⟨f, hf, rfl⟩

end Workspace

end BundleWright
