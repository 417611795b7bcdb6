import BundleWright.Proofs.Placement
import BundleWright.Proofs.Plan
import Mathlib.Data.List.Perm.Basic
/-!
What staging puts where. Main statements: a plan stages each file of its modules once, and the
staged paths are apart exactly when the places are that the modules declare.
-/
namespace BundleWright

open BundleWright.Path

def Path.Apart (p q : Path) : Prop := p ≠ q ∧ ¬Above p q ∧ ¬Above q p

def Unnested (l m : List String) : Prop := ¬l <+: m ∧ ¬m <+: l

theorem Path.apart_div_iff {dir a b : Path} (ha : a.root = .none) (hb : b.root = .none) :
    Apart (dir / a) (dir / b) ↔ Unnested a.parts b.parts := by
  have he {p q : Path} (hp : p.root = .none) (hq : q.root = .none) :
      (dir / p : Path) = dir / q ↔ p.parts = q.parts := by
    rw [div_eq_div_iff hp hq, ext_iff', hp, hq]
    simp
  simp only [Apart, Above, ne_eq, he ha hb, he hb ha, join_root_of_relative, ha, hb,
    join_parts_of_relative, List.prefix_append_right_inj, Unnested, true_and]
  constructor
  · rintro ⟨hne, hab, hba⟩
    exact ⟨fun h => hab ⟨h, hne⟩, fun h => hba ⟨h, fun e => hne e.symm⟩⟩
  · rintro ⟨hab, hba⟩
    exact ⟨fun e => hab (e ▸ List.prefix_refl _), fun h => hab h.1, fun h => hba h.1⟩

namespace Node

def directory (setSystemApart : Bool) (n : Node) : List String :=
  match n.kind with
  | .library l =>
    InstallDir.libraryRoot n.target :: (ofString l.relativeInstallPath).parts ++
      (if n.target.native then [] else (ofString n.target.arch).parts) ++
      (if InstallDir.isApart n.name setSystemApart then [InstallDir.systemLibrariesDir] else [])
  | .binary _ => ["bin"]
  | .script c => "bin" :: (ofString c.subDir).parts
  | .java _ => ["javalib"]
  | .prebuilt p => "etc" :: (ofString p.subDir).parts
  | _ => []

def places (setSystemApart : Bool) (n : Node) : List (List String) :=
  match n.builtFile? with
  | none => []
  | some p =>
    let place := n.directory setSystemApart ++ (ofString p.name).parts
    place :: n.aliases.map fun s => place.dropLast ++ [s]

variable {n : Node} {setSystemApart : Bool} {p : Path} {d : String} {links : List String}

theorem Offers.parts_installDir (h : n.Offers setSystemApart p d links)
    (hd : isRelativeSubdir d = true) : (ofString d).parts = n.directory setSystemApart := by
  have hdir := h.installDir
  have hbin : (ofString "bin").parts = ["bin"] := by decide +kernel
  have hetc : (ofString "etc").parts = ["etc"] := by decide +kernel
  have hsub {a b : String} (h : isRelativeSubdir (joinDirs [a, b]) = true) :
      (ofString (joinDirs [a, b])).parts = (ofString a).parts ++ (ofString b).parts :=
    parts_joinDirs (isRelativeSubdir_iff.1 (isRelativeSubdir_joinDirs.1 h).2).1
  cases hk : n.kind with
  | library l =>
    simp only [InstallDir.ofNode?, hk, Option.some.injEq] at hdir
    subst hdir
    simp only [directory, hk]
    exact InstallDir.parts_library hd
  | binary x =>
    simp only [InstallDir.ofNode?, hk, Option.some.injEq] at hdir
    subst hdir
    simp only [directory, hk]
    exact hbin
  | script c =>
    simp only [InstallDir.ofNode?, hk, Option.some.injEq] at hdir
    subst hdir
    simp only [directory, hk, InstallDir.script, hsub hd, hbin, List.singleton_append]
  | java j =>
    simp only [InstallDir.ofNode?, hk, Option.some.injEq] at hdir
    subst hdir
    simp only [directory, hk]
    decide +kernel
  | prebuilt p =>
    simp only [InstallDir.ofNode?, hk, Option.some.injEq] at hdir
    subst hdir
    simp only [directory, hk, InstallDir.prebuilt, hsub hd, hetc, List.singleton_append]
  | _ => simp [InstallDir.ofNode?, hk] at hdir

theorem directory_ne_nil (h : n.Offers setSystemApart p d links) :
    n.directory setSystemApart ≠ [] := by
  have hf := h.builtFile
  unfold builtFile? at hf
  unfold directory
  split at hf <;> simp_all

end Node

namespace PackagedFile

variable {f : PackagedFile} {n : Node} {setSystemApart : Bool} {dir : Path}

def places (f : PackagedFile) : List Path :=
  f.place :: f.symlinks.map fun (s : String) => f.place.parent / s

theorem parts_place_eq (f : PackagedFile) :
    f.place.parts = (ofString f.installDir).parts ++ (ofString f.builtFile.name).parts :=
  join_parts_of_relative (root_name _)

theorem root_of_mem_places {p : Path} (h : p ∈ f.places) : p.root = .none := by
  rcases List.mem_cons.1 h with rfl | h
  · exact f.root_place
  · obtain ⟨s, hs, rfl⟩ := List.mem_map.1 h
    exact (root_div_component (isComponent_of_isPlainName (f.plain s hs))).trans f.root_place

theorem IsOf.map_parts_places (h : f.IsOf setSystemApart n) :
    f.places.map (·.parts) = n.places setSystemApart := by
  have hplace : f.place.parts =
      n.directory setSystemApart ++ (ofString f.builtFile.name).parts := by
    rw [parts_place_eq, h.offers.parts_installDir f.inside]
  rw [Node.places, h.offers.builtFile, places, List.map_cons, List.map_map, hplace,
    h.offers.aliases]
  refine congrArg (_ :: ·) (List.map_congr_left fun s hs => ?_)
  have hp : (f.place.parent / s : Path).parts = f.place.parts.dropLast ++ [s] :=
    parts_div_component (isComponent_of_isPlainName (f.plain s hs))
  rw [← hplace, ← hp]
  rfl

theorem IsOf.place_ne_nil (h : f.IsOf setSystemApart n) : f.place.parts ≠ [] := by
  rw [parts_place_eq, h.offers.parts_installDir f.inside]
  simp [Node.directory_ne_nil h.offers]

theorem IsOf.staged_eq (h : f.IsOf setSystemApart n) (dir : Path) :
    f.destination dir :: (f.links dir).map (·.link) = f.places.map (dir / ·) := by
  rw [link_links h.place_ne_nil, destination_eq, places, List.map_cons, List.map_map]
  rfl

end PackagedFile

def ModuleGraph.owners (g : ModuleGraph) (files : List PackagedFile) : List Node :=
  files.filterMap fun f => f.owner.bind g.node?

section Owners

variable {g : ModuleGraph} {setSystemApart : Bool} {files : List PackagedFile} {dir : Path}

theorem staged_perm (dir : Path) (h : ∀ f ∈ files, ∃ n, f.IsOf setSystemApart n) :
    (Action.staging files dir).work.places.Perm
      ((files.flatMap PackagedFile.places).map (dir / ·)) := by
  have hp := List.map_append_flatMap_perm files (fun f => f.destination dir)
    (fun f => (f.links dir).map (·.link))
  have hr : files.flatMap (fun f => f.destination dir :: (f.links dir).map (·.link)) =
      (files.flatMap PackagedFile.places).map (dir / ·) := by
    rw [List.map_flatMap]
    refine List.flatMap_congr fun f hf => ?_
    obtain ⟨n, hn⟩ := h f hf
    exact hn.staged_eq dir
  rw [← hr]
  simpa [Action.staging, Work.places, List.map_flatMap, Function.comp_def] using hp

/-- Each file has the node it comes from, which declares its places. -/
theorem owners_spec
    (h : ∀ f ∈ files, ∃ n, f.owner.bind g.node? = some n ∧ f.IsOf setSystemApart n) :
    (g.owners files).length = files.length ∧
      (g.owners files).map Node.builtFile? = files.map (fun f => some f.builtFile) ∧
      (g.owners files).flatMap (Node.places setSystemApart) =
        (files.flatMap PackagedFile.places).map (·.parts) := by
  induction files with
  | nil => exact ⟨rfl, rfl, rfl⟩
  | cons f rest ih =>
    obtain ⟨n, hn, hof⟩ := h f (by simp)
    obtain ⟨hl, hb, hp⟩ := ih fun f hf => h f (by simp [hf])
    have hcons : g.owners (f :: rest) = n :: g.owners rest := by
      simp [ModuleGraph.owners, hn]
    refine ⟨by simp [hcons, hl], by simp [hcons, hb, hof.offers.builtFile], ?_⟩
    rw [hcons, List.flatMap_cons, List.flatMap_cons, List.map_append, hp, hof.map_parts_places]

theorem staging_apart_iff
    (h : ∀ f ∈ files, ∃ n, f.owner.bind g.node? = some n ∧ f.IsOf setSystemApart n) :
    (Action.staging files dir).work.places.Pairwise Apart ↔
      ((g.owners files).flatMap (Node.places setSystemApart)).Pairwise Unnested := by
  have hsymm {p q : Path} (hpq : Apart p q) : Apart q p := ⟨hpq.1.symm, hpq.2.2, hpq.2.1⟩
  have hof : ∀ f ∈ files, ∃ n, f.IsOf setSystemApart n := fun f hf =>
    (h f hf).imp fun n hn => hn.2
  have hperm := staged_perm dir hof
  rw [(owners_spec h).2.2, hperm.pairwise_iff hsymm, List.pairwise_map, List.pairwise_map]
  have hroot : ∀ p ∈ files.flatMap PackagedFile.places, p.root = .none := fun p hp => by
    obtain ⟨f, _, hp⟩ := List.mem_flatMap.1 hp
    exact f.root_of_mem_places hp
  exact List.Pairwise.iff_of_mem fun hp hq => apart_div_iff (hroot _ hp) (hroot _ hq)

theorem node?_of_mem_owners (hg : g.Settled) {n : Node} (h : n ∈ g.owners files) :
    g.node? n.key = some n := by
  obtain ⟨f, _, hn⟩ := List.mem_filterMap.1 h
  obtain ⟨id, _, hn⟩ := Option.bind_eq_some_iff.1 hn
  rwa [hg.key_of_node? hn]

theorem nodup_owners (hg : g.Settled) (hnd : (files.map (·.builtFile)).Nodup)
    (h : ∀ f ∈ files, ∃ n, f.owner.bind g.node? = some n ∧ f.IsOf setSystemApart n) :
    ((g.owners files).map Node.key).Nodup := by
  have hb : ((g.owners files).map Node.builtFile?).Nodup := by
    have hp := List.pairwise_map.1 hnd
    rw [(owners_spec h).2.1]
    exact List.pairwise_map.2 (hp.imp fun hne he => hne (Option.some.inj he))
  refine List.pairwise_map.2 ((List.pairwise_map.1 hb).imp_of_mem fun hn hm hne he => hne ?_)
  have hn' := node?_of_mem_owners hg hn
  rw [he, node?_of_mem_owners hg hm] at hn'
  rw [Option.some.inj hn']

end Owners

namespace Collection

variable {g : ModuleGraph} {b : BundleModule} {s : Settings} {c : Collection}

theorem exists_owner (hg : g.Settled) (h : ofBundle g b s = .ok c) {f : PackagedFile}
    (hf : f ∈ c.files) :
    ∃ n, f.owner.bind g.node? = some n ∧ f.IsOf b.setsSystemApart n := by
  obtain ⟨id, n, hn, hof⟩ := exists_isOf h hf
  refine ⟨n, ?_, hof⟩
  rw [hof.owner, Option.bind_some, hg.key_of_node? hn, hn]

theorem nodup_builtFiles (h : ofBundle g b s = .ok c) : (c.files.map (·.builtFile)).Nodup := by
  rw [files_of_ofBundle h]
  exact nodup_builtFiles_normalised _ _

end Collection

namespace Node

variable {n m : Node} {setSystemApart : Bool} {l k : List String}

def HasName (n : Node) : Prop := ∀ p ∈ n.builtFile?, p.name ≠ ""

theorem head?_of_mem_places (hn : n.HasName) (hl : l ∈ n.places setSystemApart) :
    l ≠ [] ∧ l.head? = (n.directory setSystemApart).head? := by
  unfold places at hl
  split at hl
  · simp at hl
  · next p hp =>
    have hd : n.directory setSystemApart ≠ [] := by
      unfold builtFile? at hp
      unfold directory
      split at hp <;> simp_all
    have hname := ofString_component (isComponent_name (hn p hp))
    have hhead (s : String) :
        (n.directory setSystemApart ++ [s]).head? = (n.directory setSystemApart).head? := by
      simp [List.head?_append, List.head?_eq_some_head hd]
    rw [hname] at hl
    rcases List.mem_cons.1 hl with rfl | hl
    · exact ⟨by simp, hhead _⟩
    · obtain ⟨s, _, rfl⟩ := List.mem_map.1 hl
      rw [List.dropLast_concat]
      exact ⟨by simp, hhead _⟩

theorem head?_eq_of_begins (h : l <+: k) (hl : l ≠ []) : l.head? = k.head? := by
  obtain ⟨t, rfl⟩ := h
  simp [List.head?_append, List.head?_eq_some_head hl]

theorem head?_directory_eq (hn : n.HasName) (hm : m.HasName) (hl : l ∈ n.places setSystemApart)
    (hk : k ∈ m.places setSystemApart) (h : ¬Unnested l k) :
    (n.directory setSystemApart).head? = (m.directory setSystemApart).head? := by
  obtain ⟨hl0, hl1⟩ := head?_of_mem_places hn hl
  obtain ⟨hk0, hk1⟩ := head?_of_mem_places hm hk
  rw [← hl1, ← hk1]
  by_cases hp : l <+: k
  · exact head?_eq_of_begins hp hl0
  · have hp' : k <+: l := Decidable.not_not.1 fun hn => h ⟨hp, hn⟩
    exact (head?_eq_of_begins hp' hk0).symm

theorem exists_head?_directory (hl : l ∈ n.places setSystemApart) :
    ∃ area ∈ ["lib", "lib64", "bin", "etc", "javalib"],
      (n.directory setSystemApart).head? = some area := by
  cases hk : n.kind with
  | library x =>
    refine ⟨InstallDir.libraryRoot n.target, ?_, by simp [directory, hk]⟩
    unfold InstallDir.libraryRoot
    split <;> simp
  | binary x => exact ⟨"bin", by simp, by simp [directory, hk]⟩
  | script x => exact ⟨"bin", by simp, by simp [directory, hk]⟩
  | java x => exact ⟨"javalib", by simp, by simp [directory, hk]⟩
  | prebuilt x => exact ⟨"etc", by simp, by simp [directory, hk]⟩
  | _ => simp [places, builtFile?, hk] at hl

theorem java_of_head?_directory (h : (n.directory setSystemApart).head? = some "javalib") :
    ∃ j, n.kind = .java j := by
  cases hk : n.kind with
  | java j => exact ⟨j, rfl⟩
  | library l =>
    have hl : InstallDir.libraryRoot n.target = "javalib" := by simpa [directory, hk] using h
    unfold InstallDir.libraryRoot at hl
    split at hl <;> simp at hl
  | _ => simp [directory, hk] at h

end Node

namespace Workspace

variable {doc : Datum} {ds : List Declaration} {s₀ s : Settings} {dir : Path} {w w' : Workspace}
  {tree : FileTree} {names : List String} {a : Assembly} {o : Outcome} {plan : Plan}

/-- The archives of two managed libraries have different places. -/
theorem unnested_of_java (hd : Declaration.readDocument doc = .sound ds)
    (hw : ofDeclarations ds s₀ dir = .ok w) {n m : Member} (hn : n ∈ w.graph.members)
    (hm : m ∈ w.graph.members) (hne : n.node.key ≠ m.node.key) {j j' : JavaLibrary}
    (hj : n.node.kind = .java j) (hj' : m.node.kind = .java j') {setSystemApart : Bool}
    {l k : List String} (hl : l ∈ n.node.places setSystemApart)
    (hk : k ∈ m.node.places setSystemApart) : Unnested l k := by
  have hplace {x : Member} (hx : x ∈ w.graph.members) {i : JavaLibrary}
      (hi : x.node.kind = .java i) {p : List String} (hp : p ∈ x.node.places setSystemApart) :
      p = ["javalib", x.node.name ++ ".jar"] ∧
        x.node.variantId = s₀.commonTarget.variantName := by
    obtain ⟨d, hdm, known, hdecl⟩ := exists_declaration hw hx
    cases hjar : i.dexJar with
    | none => simp [Node.places, Node.builtFile?, hi, hjar] at hp
    | some jar =>
      obtain ⟨hname, hvar⟩ :=
        Declaration.java_of_declares (Declaration.keeps_of_readDocument hd d hdm) hdecl hi hjar
      refine ⟨?_, hvar⟩
      have hne : jar.name ≠ "" := by
        rw [hname]
        intro he
        have hlen := congrArg (fun t : String => t.toList.length) he
        simp at hlen
      have hparts : (ofString jar.name).parts = [jar.name] := by
        rw [ofString_component (isComponent_name hne)]
      rw [hname] at hparts
      simpa [Node.places, Node.builtFile?, Node.aliases, Node.directory, hi, hjar, hname, hparts]
        using hp
  obtain ⟨rfl, hv⟩ := hplace hn hj hl
  obtain ⟨rfl, hv'⟩ := hplace hm hj' hk
  have hnames : n.node.name ++ ".jar" ≠ m.node.name ++ ".jar" := by
    intro he
    have hname : n.node.name = m.node.name := by
      have ht := congrArg String.toList he
      simp only [String.toList_append, List.append_cancel_right_eq] at ht
      exact String.toList_inj.1 ht
    refine hne ?_
    rw [Node.key, Node.key, hname, hv, hv']
  constructor <;> simp [List.cons_prefix_cons, hnames, hnames.symm]

/-- What a plan stages. The files come from different nodes, and the staged paths are apart exactly
when the places are that these nodes declare. Places of different nodes can only meet below one of
the directories of libraries, executables and resource files. -/
theorem staging_apart_iff_places (hd : Declaration.readDocument doc = .sound ds)
    (hw : ofDeclarations ds s₀ dir = .ok w) (ha : w.assemble s tree names = (w', .ok a))
    (ho : o ∈ a.outcomes) (hp : o.result = .ok plan) :
    let nodes := w'.graph.owners plan.files
    let places := Node.places o.bundle.setsSystemApart
    nodes.length = plan.files.length ∧ (nodes.map Node.key).Nodup ∧
      (∀ act ∈ plan.actions, ∀ copies links, act.work = .stage copies links →
        ((copies.map (·.dest) ++ links.map (·.link)).Pairwise Apart ↔
          (nodes.flatMap places).Pairwise Unnested)) ∧
      ∀ n ∈ nodes, ∀ m ∈ nodes, n ≠ m → n.HasName → m.HasName →
        ∀ l ∈ places n, ∀ k ∈ places m, ¬Unnested l k →
          ∃ area ∈ ["lib", "lib64", "bin", "etc"],
            (n.directory o.bundle.setsSystemApart).head? = some area ∧
              (m.directory o.bundle.setsSystemApart).head? = some area := by
  have hs := sound_of_ofDeclarations (Declaration.keeps_of_readDocument hd) hw
  have hg := assembled_of_assemble hs ha
  obtain ⟨_, _, c, _, hc, hplan, _⟩ := exists_of_outcome hs ha ho hp
  have hown : ∀ f ∈ plan.files, ∃ n, f.owner.bind w'.graph.node? = some n ∧
      f.IsOf o.bundle.setsSystemApart n := by
    rw [(BundleModule.plan_eq_ok hplan).1]
    exact fun f hf => Collection.exists_owner hg.settled hc hf
  have hnd : (plan.files.map (·.builtFile)).Nodup := by
    rw [(BundleModule.plan_eq_ok hplan).1]
    exact Collection.nodup_builtFiles hc
  refine ⟨(owners_spec hown).1, nodup_owners hg.settled hnd hown, ?_, ?_⟩
  · intro act hact copies links hwork
    obtain ⟨payload, rfl⟩ := BundleModule.eq_staging_of_mem_actions hplan hact hwork
    rw [← (BundleModule.plan_eq_ok hplan).1] at hwork
    cases hwork
    exact staging_apart_iff hown
  · intro n hn m hm hne hnn hmn l hl k hk hnest
    have hhead := Node.head?_directory_eq hnn hmn hl hk hnest
    obtain ⟨area, harea, hn'⟩ := Node.exists_head?_directory hl
    have hm' := hhead ▸ hn'
    refine ⟨area, ?_, hn', hm'⟩
    have hjava : area ≠ "javalib" := by
      rintro rfl
      obtain ⟨j, hj⟩ := Node.java_of_head?_directory hn'
      obtain ⟨j', hj'⟩ := Node.java_of_head?_directory hm'
      have hmem {x : Node} (hx : x ∈ w'.graph.owners plan.files) :
          ⟨x.key, x⟩ ∈ w.graph.members :=
        hg.members ▸ ModuleGraph.mem_of_node? (node?_of_mem_owners hg.settled hx)
      have hkeys : n.key ≠ m.key := by
        intro he
        have h1 := node?_of_mem_owners hg.settled hn
        rw [he, node?_of_mem_owners hg.settled hm] at h1
        exact hne (Option.some.inj h1).symm
      exact hnest (unnested_of_java hd hw (hmem hn) (hmem hm) hkeys hj hj' hl hk)
    simpa [hjava] using harea

theorem staging_apart_iff_places_sharedStem :
    ∃ ds w w' a o plan, Declaration.readDocument sharedStem = .sound ds ∧
      ofDeclarations ds sharedStemSettings .here = .ok w ∧
      w.assemble sharedStemSettings {} [] = (w', .ok a) ∧ o ∈ a.outcomes ∧ o.result = .ok plan ∧
      ((w'.graph.owners plan.files).map Node.key).Nodup := by
  obtain ⟨o, ho, hok⟩ := exists_outcome_sharedStem
  obtain ⟨ds, w, w', a, hd, hw, ha, ho⟩ := exists_of_mem_outcomesOf ho
  obtain ⟨plan, hp⟩ := o.exists_of_ok hok
  obtain ⟨_, hn, _⟩ := staging_apart_iff_places hd hw ha ho hp
  exact ⟨ds, w, w', a, o, plan, hd, hw, ha, ho, hp, hn⟩

theorem not_nodup_sharedStem (hw : ofDocument? sharedStem sharedStemSettings .here = some w) :
    ∀ b ∈ w.bundles, ¬((PackagedFile.dropRepeated (Findings.ofBundle
      (w.graph.addAllBundleDependencies sharedStemSettings w.bundles).1 sharedStemSettings
      b).files).map (·.pathInBundle)).Nodup := by
  have h : ∀ w ∈ (ofDocument? sharedStem sharedStemSettings .here).toList, ∀ b ∈ w.bundles,
      ¬((PackagedFile.dropRepeated (Findings.ofBundle
        (w.graph.addAllBundleDependencies sharedStemSettings w.bundles).1 sharedStemSettings
        b).files).map (·.pathInBundle)).Nodup := by decide +kernel
  exact h w (Option.mem_toList.2 hw)

theorem staging_overwrites_sharedStem :
    sharedStemSettings.targetList.Nodup ∧
      ∃ ds w w' a o plan, Declaration.readDocument sharedStem = .sound ds ∧
        ofDeclarations ds sharedStemSettings .here = .ok w ∧
        w.assemble sharedStemSettings {} [] = (w', .ok a) ∧ o ∈ a.outcomes ∧ o.ok = true ∧
        o.result = .ok plan ∧ ∃ act ∈ plan.actions, ∃ copies links,
          act.work = .stage copies links ∧
            ¬(copies.map (·.dest) ++ links.map (·.link)).Nodup := by
  obtain ⟨o, ho, hok⟩ := exists_outcome_sharedStem
  obtain ⟨ds, w, w', a, hd, hw, ha, ho⟩ := exists_of_mem_outcomesOf ho
  obtain ⟨plan, hp⟩ := o.exists_of_ok hok
  have hs := sound_of_ofDeclarations (Declaration.keeps_of_readDocument hd) hw
  obtain ⟨hb, _, c, _, hc, hpl, _⟩ := exists_of_outcome hs ha ho hp
  obtain ⟨payload, hmem, _⟩ := BundleModule.exists_payload hpl
  refine ⟨by decide +kernel, ds, w, w', a, o, plan, hd, hw, ha, ho, hok, hp, _, hmem, _, _, rfl,
    fun hn => ?_⟩
  have hdest := (List.nodup_append.1 hn).1
  have hpath : (c.files.map (·.pathInBundle)).Nodup := by
    rw [List.map_map] at hdest
    refine List.pairwise_map.2 ((List.pairwise_map.1 hdest).imp fun {f f'} hne he => hne ?_)
    have hplace : f.place = f'.place := text_injective he
    simp only [Function.comp_apply, PackagedFile.destination_eq, hplace]
  have hperm : (c.files.map (·.pathInBundle)).Perm ((PackagedFile.dropRepeated
      (Findings.ofBundle w'.graph sharedStemSettings o.bundle).files).map (·.pathInBundle)) := by
    rw [Collection.files_of_ofBundle hc]
    refine ((Collection.normalised_perm _ _).map _).trans ?_
    simp [PackagedFile.namespaced, PackagedFile.pathInBundle, PackagedFile.withModuleName,
      Function.comp_def]
  rw [findings_of_assemble ha] at hperm
  exact not_nodup_sharedStem (ofDocument?_eq_some.2 ⟨ds, hd, hw⟩) _ hb (hperm.nodup_iff.1 hpath)

end Workspace

end BundleWright
