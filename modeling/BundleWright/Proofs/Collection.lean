import BundleWright.Proofs.Embedding
/-!
What a collection holds. Main statements: a bundle has a collection if one of its edges leads to a
signing key, and the files of the collection are then the embedded ones, whatever the order of the
edges.
-/
namespace BundleWright

namespace Findings

variable {g : ModuleGraph} {settings : Settings} {b : BundleModule} {tag : Tag} {n : Node}
  {p : Path} {c : Certificate} {d : String} {k : FileClass} {links : List String} {e : Edge}

theorem exists_add_eq :
    ∃ files errors, (add {} b tag n p d k links).2 = { files := files, errors := errors } := by
  unfold add
  split
  · exact ⟨_, _, rfl⟩
  · exact ⟨_, _, rfl⟩

theorem keyFile_add : (add {} b tag n p d k links).2.keyFile = none := by
  obtain ⟨_, _, h⟩ := exists_add_eq (b := b) (n := n)
  rw [h]

theorem publicKeyFile_add : (add {} b tag n p d k links).2.publicKeyFile = none := by
  obtain ⟨_, _, h⟩ := exists_add_eq (b := b) (n := n)
  rw [h]

theorem certificate_add : (add {} b tag n p d k links).2.certificate = none := by
  obtain ⟨_, _, h⟩ := exists_add_eq (b := b) (n := n)
  rw [h]

theorem exists_indirect_eq (b : BundleModule) (n : Node) :
    ∃ files errors, (indirect b {} n).2 = { files := files, errors := errors } := by
  unfold indirect
  split
  · split
    · exact exists_add_eq
    · exact ⟨_, _, rfl⟩
  · exact ⟨_, _, rfl⟩

theorem keyFile_direct :
    (direct settings b {} tag n).2.keyFile = some p ↔
      tag = .key ∧ ∃ k, n.kind = .key k ∧ k.privateKeyFile = p := by
  unfold direct
  split <;> try split
  all_goals simp_all [addLibrary, keyFile_add, report]

theorem publicKeyFile_direct :
    (direct settings b {} tag n).2.publicKeyFile = some p ↔
      tag = .key ∧ ∃ k, n.kind = .key k ∧ (!k.installable && settings.debuggable) = true ∧
        k.publicKeyFile = p := by
  unfold direct
  split <;> try split
  all_goals simp_all [addLibrary, publicKeyFile_add, report]

theorem certificate_direct :
    (direct settings b {} tag n).2.certificate = some c ↔
      tag = .certificate ∧ n.kind = .certificate c := by
  unfold direct
  split <;> try split
  all_goals simp_all [addLibrary, certificate_add, report]

/-- A field that stands empty until a direct edge fills it, and that the last such edge decides. -/
structure DecidedLast {α : Type} (b : BundleModule) (field : Findings → Option α) : Prop where
  empty : field {} = none
  append (s t : Findings) : field (s.append t) = (field t).or (field s)
  indirect (n : Node) : field (Findings.indirect b {} n).2 = none

theorem decidedLast_keyFile : DecidedLast b Findings.keyFile where
  empty := rfl
  append _ _ := rfl
  indirect n := by
    obtain ⟨_, _, h⟩ := exists_indirect_eq b n
    rw [h]

theorem decidedLast_publicKeyFile : DecidedLast b Findings.publicKeyFile where
  empty := rfl
  append _ _ := rfl
  indirect n := by
    obtain ⟨_, _, h⟩ := exists_indirect_eq b n
    rw [h]

theorem decidedLast_certificate : DecidedLast b Findings.certificate where
  empty := rfl
  append _ _ := rfl
  indirect n := by
    obtain ⟨_, _, h⟩ := exists_indirect_eq b n
    rw [h]

namespace DecidedLast

variable {α : Type} {field : Findings → Option α} {x : α}

theorem foldl_append (h : DecidedLast b field) (l : List Findings) (s : Findings) :
    field (l.foldl Findings.append s) = (l.reverse.findSome? field).or (field s) := by
  induction l generalizing s with
  | nil => simp
  | cons a l ih => simp [ih, h.append, List.findSome?_append, Option.or_assoc]

theorem ofBundle_eq (h : DecidedLast b field) :
    field (ofBundle g settings b) =
      (edges g settings b).reverse.findSome? fun e => field (note g settings b e) := by
  rw [Findings.ofBundle_eq, h.foldl_append, ← List.map_reverse, List.findSome?_map, h.empty]
  exact Option.or_none

theorem note_iff (h : DecidedLast b field) :
    field (note g settings b e) = some x ↔
      e.parent = b.id ∧ ∃ n, g.node? e.child = some n ∧
        field (direct settings b {} e.tag n).2 = some x := by
  cases hn : g.node? e.child with
  | none => simp [note_of_node?_eq_none hn, h.empty]
  | some n =>
    by_cases hp : e.parent = b.id
    · simp [note, visit_direct settings hp hn, hp]
    · simp [note, visit_indirect settings hp hn, h.indirect, hp]

theorem exists_edge (h : DecidedLast b field) (hg : g.Settled)
    (hx : field (ofBundle g settings b) = some x) :
    ∃ e ∈ g.dependencies b.id, ∃ n, g.node? e.child = some n ∧
      field (direct settings b {} e.tag n).2 = some x := by
  rw [h.ofBundle_eq] at hx
  obtain ⟨e, he, hx⟩ := List.exists_of_findSome?_eq_some hx
  obtain ⟨hm, _⟩ := (mem_edges_iff hg).1 (List.mem_reverse.1 he)
  obtain ⟨hp, hx⟩ := h.note_iff.1 hx
  exact ⟨e, hg.mem_dependencies_iff.2 ⟨hm, hp⟩, hx⟩

theorem exists_of_edge (h : DecidedLast b field) (hg : g.Settled) (he : e ∈ g.dependencies b.id)
    (hn : g.node? e.child = some n) (hx : field (direct settings b {} e.tag n).2 = some x) :
    ∃ y, field (ofBundle g settings b) = some y := by
  rw [h.ofBundle_eq]
  refine Option.isSome_iff_exists.1 (List.findSome?_isSome_iff.2 ⟨e, ?_, ?_⟩)
  · exact List.mem_reverse.2 (mem_edges_of_mem_dependencies hg settings he)
  · have hp := (hg.mem_dependencies_iff.1 he).2
    exact Option.isSome_iff_exists.2 ⟨x, h.note_iff.2 ⟨hp, n, hn, hx⟩⟩

theorem eq_direct (h : DecidedLast b field) (settings : Settings) (hg : g.Settled)
    (he : e ∈ g.dependencies b.id) (hn : g.node? e.child = some n)
    (hone : ∀ d ∈ g.dependencies b.id, ∀ m y,
      field (direct settings b {} d.tag m).2 = some y → d = e) :
    field (ofBundle g settings b) = field (direct settings b {} e.tag n).2 := by
  have hfrom (y : α) (hy : field (ofBundle g settings b) = some y) :
      field (direct settings b {} e.tag n).2 = some y := by
    obtain ⟨d, hd, m, hm, hdy⟩ := h.exists_edge hg hy
    obtain rfl := hone d hd m y hdy
    rw [hn, Option.some.injEq] at hm
    rwa [hm]
  cases hx : field (direct settings b {} e.tag n).2 with
  | some x =>
    obtain ⟨y, hy⟩ := h.exists_of_edge hg he hn hx
    rw [hy, ← hfrom y hy, hx]
  | none =>
    cases hf : field (ofBundle g settings b) with
    | none => rfl
    | some y => rw [hfrom y hf] at hx; cases hx

end DecidedLast

theorem exists_isOf_of_mem_files {f : PackagedFile} (h : f ∈ (ofBundle g settings b).files) :
    ∃ e ∈ edges g settings b, ∃ n, g.node? e.child = some n ∧ f.IsOf b.setsSystemApart n := by
  obtain ⟨e, he, n, hn, hof, _⟩ := exists_source_of_mem_files h
  exact ⟨e, he, n, hn, hof⟩

end Findings

namespace Collection

variable {g : ModuleGraph} {settings : Settings} {b : BundleModule} {c : Collection}

theorem ofBundle_eq_ok (h : ofBundle g b settings = .ok c) :
    (Findings.ofBundle g settings b).keyFile = some c.keyFile ∧
      c = {
        bundle := b.name
        files := normalised b.name (Findings.ofBundle g settings b).files
        keyFile := c.keyFile
        publicKeyFile := (Findings.ofBundle g settings b).publicKeyFile
        certificate := (Findings.ofBundle g settings b).certificate
        errors := (Findings.ofBundle g settings b).errors } := by
  cases hk : (Findings.ofBundle g settings b).keyFile with
  | none => simp [ofBundle, hk] at h
  | some key =>
    simp only [ofBundle, hk, Except.ok.injEq] at h
    cases h
    exact ⟨rfl, rfl⟩

theorem exists_ofBundle {p : Path} (h : (Findings.ofBundle g settings b).keyFile = some p) :
    ∃ c, ofBundle g b settings = .ok c := by
  simp [ofBundle, h]

theorem exists_of_keyEdge (settings : Settings) (hg : g.Settled) {e : Edge}
    (he : e ∈ g.dependencies b.id) (ht : e.tag = .key) {n : Node} {k : SigningKey}
    (hn : g.node? e.child = some n) (hk : n.kind = .key k) :
    ∃ c, ofBundle g b settings = .ok c := by
  have hkey : (Findings.direct settings b {} e.tag n).2.keyFile = some k.privateKeyFile :=
    Findings.keyFile_direct.2 ⟨ht, k, hk, rfl⟩
  obtain ⟨p, hp⟩ := Findings.decidedLast_keyFile.exists_of_edge hg he hn hkey
  exact exists_ofBundle hp

theorem files_of_ofBundle (h : ofBundle g b settings = .ok c) :
    c.files = normalised b.name (Findings.ofBundle g settings b).files := by
  rw [(ofBundle_eq_ok h).2]

/-- Every file of a collection is the file of a node, in its place, found on an edge out of the
bundle that brings it or on one to a library that comes along. -/
theorem exists_source (h : ofBundle g b settings = .ok c) {f : PackagedFile} (hf : f ∈ c.files) :
    ∃ e ∈ Findings.edges g settings b, ∃ n, g.node? e.child = some n ∧
      f.IsOf b.setsSystemApart n ∧
      (e.parent = b.id ∧ Brings e.tag n f.builtFile ∨
        e.parent ≠ b.id ∧ ∃ l, Carried b.setsSystemApart n l ∧ f.builtFile = l.outputFile) := by
  rw [files_of_ofBundle h] at hf
  obtain ⟨found, hm, rfl⟩ := exists_of_mem_normalised hf
  obtain ⟨e, he, n, hn, hof, hsource⟩ := Findings.exists_source_of_mem_files hm
  exact ⟨e, he, n, hn, ⟨hof.offers, hof.owner⟩, hsource⟩

theorem exists_edge (h : ofBundle g b settings = .ok c) {f : PackagedFile} (hf : f ∈ c.files) :
    ∃ e ∈ Findings.edges g settings b, ∃ n, g.node? e.child = some n ∧
      f.IsOf b.setsSystemApart n := by
  obtain ⟨e, he, n, hn, hof, _⟩ := exists_source h hf
  exact ⟨e, he, n, hn, hof⟩

theorem exists_isOf (h : ofBundle g b settings = .ok c) {f : PackagedFile} (hf : f ∈ c.files) :
    ∃ id n, g.node? id = some n ∧ f.IsOf b.setsSystemApart n := by
  obtain ⟨e, _, hn⟩ := exists_edge h hf
  exact ⟨e.child, hn⟩

/-- What an edge out of the bundle brings is embedded, whatever has become of the keys. -/
theorem mem_builtFiles_of_brings (h : ofBundle g b settings = .ok c) {e : Edge}
    (he : e ∈ g.dependencies b.id) (hp : e.parent = b.id) {n : Node}
    (hn : g.node? e.child = some n) {p : Path} (hbr : Brings e.tag n p)
    (hfit : n.Fits b.setsSystemApart) : p ∈ c.files.map (·.builtFile) := by
  rw [files_of_ofBundle h, mem_builtFiles_normalised]
  simp only [ModuleGraph.dependencies, List.mem_filter, decide_eq_true_eq] at he
  have hshown : e ∈ Findings.edges g settings b := by
    refine ModuleGraph.mem_shown_iff.2 ⟨he.1, ?_⟩
    rw [he.2]
    exact .root
  obtain ⟨f, hf, rfl⟩ := Findings.exists_mem_direct settings hbr hfit
  refine List.mem_map_of_mem (Findings.mem_files_ofBundle.2 ⟨e, hshown, ?_⟩)
  rwa [Findings.note, Findings.visit_direct settings hp hn]

theorem mem_builtFiles_iff (hg : g.Settled) (hb : g.node? b.id = some b.toNode)
    (h : ofBundle g b settings = .ok c) {p : Path} :
    p ∈ c.files.map (·.builtFile) ↔ Embeds g b p := by
  rw [files_of_ofBundle h, mem_builtFiles_normalised, List.mem_map]
  constructor
  · rintro ⟨f, hf, rfl⟩
    exact Findings.embeds_of_mem_files hg hf
  · exact Findings.exists_mem_files_of_embeds hg hb

theorem map_builtFile_eq {b' : BundleModule} {g' : ModuleGraph} {c' : Collection}
    (h : ofBundle g b settings = .ok c) (h' : ofBundle g' b' settings = .ok c')
    (hm : ∀ p, p ∈ c'.files.map (·.builtFile) ↔ p ∈ c.files.map (·.builtFile)) :
    c'.files.map (·.builtFile) = c.files.map (·.builtFile) := by
  refine (List.map_inj_right fun _ _ => Path.text_injective).1 ?_
  rw [List.map_map, List.map_map]
  refine Text.eq_of_pairwise_lt ?_ ?_ fun t => ?_
  · rw [files_of_ofBundle h']
    exact pairwise_normalised _ _
  · rw [files_of_ofBundle h]
    exact pairwise_normalised _ _
  · rw [← List.map_map, ← List.map_map, List.mem_map, List.mem_map]
    simp only [hm]

/-- A bundle with an edge to a signing key has a collection. Its files are the embedded ones, each
once, and another order of the edges makes no difference to them. -/
theorem ofBundle_embeds (settings : Settings) (hg : g.Settled) (hb : g.node? b.id = some b.toNode)
    (hk : ∃ e ∈ g.dependencies b.id, e.tag = .key ∧
      ∃ n k, g.node? e.child = some n ∧ n.kind = .key k) :
    ∃ c, ofBundle g b settings = .ok c ∧
      (∀ p, p ∈ c.files.map (·.builtFile) ↔ Embeds g b p) ∧
      (c.files.map (·.builtFile)).Nodup ∧
      ∀ g' : ModuleGraph, g'.members = g.members → g'.edges.Perm g.edges →
        ∃ c', ofBundle g' b settings = .ok c' ∧
          c'.files.map (·.builtFile) = c.files.map (·.builtFile) := by
  obtain ⟨e, he, ht, n, k, hn, hk⟩ := hk
  obtain ⟨c, hc⟩ := exists_of_keyEdge settings hg he ht hn hk
  refine ⟨c, hc, fun p => mem_builtFiles_iff hg hb hc, ?_, fun g' hm hperm => ?_⟩
  · rw [files_of_ofBundle hc]
    exact nodup_builtFiles_normalised _ _
  · have hg' : g'.Settled := hg.of_members_eq hm fun d hd => hg.source_eq d (hperm.mem_iff.1 hd)
    have hnode := ModuleGraph.node?_congr hm
    have hdeps (id : NodeKey) (d : Edge) : d ∈ g'.dependencies id ↔ d ∈ g.dependencies id := by
      rw [hg'.mem_dependencies_iff, hg.mem_dependencies_iff, hperm.mem_iff]
    obtain ⟨c', hc'⟩ := exists_of_keyEdge settings hg' ((hdeps _ _).2 he) ht
      ((hnode _).trans hn) hk
    refine ⟨c', hc', map_builtFile_eq hc hc' fun q => ?_⟩
    rw [mem_builtFiles_iff hg hb hc, mem_builtFiles_iff hg' ((hnode _).trans hb) hc']
    exact ⟨.mono hm.symm fun id d => (hdeps id d).1, .mono hm fun id d => (hdeps id d).2⟩

def ring : ModuleGraph where
  members := [
    ⟨⟨"a", "android_arm64"⟩, ⟨"a", TargetOs.android.target true .arm64, [], coreImage,
      .library { outputFile := .ofString "out/a.so" }⟩⟩,
    ⟨⟨"b", "android_arm64"⟩, ⟨"b", TargetOs.android.target true .arm64, [], coreImage,
      .library { outputFile := .ofString "out/b.so" }⟩⟩,
    ⟨⟨"t", "android_arm64"⟩, ⟨"t", TargetOs.android.target true .arm64, [], coreImage,
      .binary { outputFile := .ofString "out/t", symlinks := ["u"] }⟩⟩,
    ⟨⟨"k", "android_common"⟩, ⟨"k", TargetOs.android.common, [], coreImage, .key {}⟩⟩,
    ⟨⟨"z", "android_common"⟩, ⟨"z", TargetOs.android.common, [], coreImage,
      .bundle ⟨{ name := "z" }, [], .here⟩⟩⟩]
  edges := [
    ⟨⟨"a", "android_arm64"⟩, ⟨"b", "android_arm64"⟩, .moduleDep, ⟨"a", "android_arm64"⟩⟩,
    ⟨⟨"b", "android_arm64"⟩, ⟨"a", "android_arm64"⟩, .moduleDep, ⟨"b", "android_arm64"⟩⟩,
    ⟨⟨"z", "android_common"⟩, ⟨"a", "android_arm64"⟩, .sharedLib, ⟨"z", "android_common"⟩⟩,
    ⟨⟨"z", "android_common"⟩, ⟨"t", "android_arm64"⟩, .executable, ⟨"z", "android_common"⟩⟩,
    ⟨⟨"z", "android_common"⟩, ⟨"k", "android_common"⟩, .key, ⟨"z", "android_common"⟩⟩]

def ringBundle : BundleModule where
  name := "z"
  target := TargetOs.android.common
  node := ⟨{ name := "z" }, [], .here⟩

def ringSettings : Settings where
  sourceRoot := .here
  outDir := .here
  installRoot := .here

theorem settled_ring : ring.Settled := ⟨by decide, by decide, by decide⟩

theorem ofBundle_embeds_of_ring :
    ring.Settled ∧ ring.node? ringBundle.id = some ringBundle.toNode ∧
      ∃ c, ofBundle ring ringBundle ringSettings = .ok c ∧
        ∀ p, p ∈ c.files.map (·.builtFile) ↔ Embeds ring ringBundle p := by
  have hb : ring.node? ringBundle.id = some ringBundle.toNode := by decide
  have hk : ∃ e ∈ ring.dependencies ringBundle.id, e.tag = .key ∧
      ∃ n k, ring.node? e.child = some n ∧ n.kind = .key k :=
    ⟨⟨ringBundle.id, ⟨"k", "android_common"⟩, .key, ringBundle.id⟩, by decide, rfl,
      ⟨"k", TargetOs.android.common, [], coreImage, .key {}⟩, {}, by decide, rfl⟩
  obtain ⟨c, hc, hm, _⟩ := ofBundle_embeds ringSettings settled_ring hb hk
  exact ⟨settled_ring, hb, c, hc, hm⟩

end Collection

end BundleWright
