import BundleWright.Proofs.Declared
import BundleWright.Proofs.Findings
import BundleWright.Proofs.InstallDir
import BundleWright.Workspace
/-!
The workspace of a list of declarations. Main statement: its graph is settled, every node can be put
where it belongs, and its bundles are registered under names of their own and have no edges yet.
-/
namespace BundleWright

open BundleWright.Path

theorem exists_of_bind_eq_ok {ε α β : Type} {x : Except ε α} {f : α → Except ε β} {b : β}
    (h : x >>= f = .ok b) : ∃ a, x = .ok a ∧ f a = .ok b := by
  cases x with
  | error e => cases h
  | ok a => exact ⟨a, rfl, h⟩

theorem eq_or_exists_of_bind_eq_error {ε α β : Type} {x : Except ε α} {f : α → Except ε β} {e : ε}
    (h : x >>= f = .error e) : x = .error e ∨ ∃ a, x = .ok a ∧ f a = .error e := by
  cases x with
  | error e' =>
    cases h
    exact .inl rfl
  | ok a => exact .inr ⟨a, rfl, h⟩

theorem exists_of_map_eq_ok {ε α β : Type} {x : Except ε α} {f : α → β} {b : β}
    (h : x.map f = .ok b) : ∃ a, x = .ok a ∧ f a = b := by
  cases x with
  | error e => cases h
  | ok a => exact ⟨a, rfl, Except.ok.inj h⟩

namespace Node

variable {n : Node} {setSystemApart : Bool}

theorem fits_library {l : NativeLibrary} (hk : n.kind = .library l)
    (hdir : isRelativeSubdir l.relativeInstallPath = true)
    (harch : isRelativeSubdir n.target.arch = true) : n.Fits setSystemApart :=
  (offers_library hk).fits_iff.2 ⟨InstallDir.isRelativeSubdir_library.2 ⟨hdir, fun _ => harch⟩,
    by simp⟩

theorem fits_binary {x : NativeBinary} (hk : n.kind = .binary x)
    (hlinks : ∀ s ∈ x.symlinks, isPlainName s = true) : n.Fits setSystemApart :=
  (offers_binary hk).fits_iff.2 ⟨by decide +kernel, hlinks⟩

theorem fits_script {c : Script} (hk : n.kind = .script c)
    (hdir : isRelativeSubdir c.subDir = true) : n.Fits setSystemApart :=
  (offers_script hk).fits_iff.2
    ⟨isRelativeSubdir_joinDirs.2 ⟨by decide +kernel, hdir⟩, by simp⟩

theorem fits_prebuilt {p : Prebuilt} (hk : n.kind = .prebuilt p)
    (hdir : isRelativeSubdir p.subDir = true) : n.Fits setSystemApart :=
  (offers_prebuilt hk).fits_iff.2
    ⟨isRelativeSubdir_joinDirs.2 ⟨by decide +kernel, hdir⟩, by simp⟩

theorem fits_java {j : JavaLibrary} (hk : n.kind = .java j) : n.Fits setSystemApart := by
  constructor
  · simp only [InstallDir.ofNode?, hk, Option.mem_def, Option.some.injEq]
    rintro _ rfl
    decide +kernel
  · simp [aliases, hk]

theorem fits_of_no_place (hd : InstallDir.ofNode? n setSystemApart = none) (hl : n.aliases = []) :
    n.Fits setSystemApart := by
  simp [Fits, hd, hl]

end Node

theorem Arch.isRelativeSubdir_word (a : Arch) : isRelativeSubdir a.word = true := by
  cases a <;> decide +kernel

theorem Settings.isRelativeSubdir_arch {s : Settings} {t : Target} (h : t ∈ s.targetList) :
    isRelativeSubdir t.arch = true := by
  rcases List.mem_append.1 h with h | h
  all_goals
    obtain ⟨a, _, rfl⟩ := List.mem_map.1 h
    exact a.isRelativeSubdir_word

theorem isRelativeSubdir_getD {dir : Option String} (h : Declaration.IsSubdir? dir) :
    isRelativeSubdir (dir.getD "") = true := by
  cases dir with
  | none => decide +kernel
  | some d => exact h d rfl

inductive Declaration.Declares (known : List BundleDefaults) (s : Settings) (dir : Path) :
    Declaration → Node → Prop
  | library {d : LibraryDecl} {t : Target} {image : String} : t ∈ s.targetList →
      image ∈ imagesFor d.vendorAvailable → Declares known s dir (.library d) (d.node s t image)
  | binary {d : BinaryDecl} {t : Target} {image : String} : t ∈ s.targetList →
      image ∈ imagesFor d.vendorAvailable → Declares known s dir (.binary d) (d.node s t image)
  | script {d : ScriptDecl} {t : Target} : t ∈ s.targetList →
      Declares known s dir (.script d) (d.node s t)
  | java {d : JavaDecl} : Declares known s dir (.java d) (d.node s)
  | prebuilt {d : PrebuiltDecl} {t : Target} : t ∈ s.targetList →
      Declares known s dir (.prebuilt d) (d.node s t)
  | key {d : KeyDecl} : Declares known s dir (.key d) (d.node s dir)
  | certificate {d : CertificateDecl} {c : Certificate} : d.pair? dir = some c →
      Declares known s dir (.certificate d)
        { name := d.name, target := s.commonTarget, kind := .certificate c }
  | bundle {d b : Bundle} : d.resolved known = .ok b →
      Declares known s dir (.bundle d) (b.module s dir).toNode

namespace Declaration

variable {d : Declaration} {known : List BundleDefaults} {s : Settings} {dir : Path}
  {bundles : List BundleModule} {nodes : List Node} {n : Node}

theorem exists_of_mem_forVariants {va : Option Bool} {f : Target → String → Node}
    (h : n ∈ forVariants s va f) :
    ∃ t ∈ s.targetList, ∃ image ∈ imagesFor va, n = f t image := by
  obtain ⟨t, ht, h⟩ := List.mem_flatMap.1 h
  obtain ⟨image, hi, rfl⟩ := List.mem_map.1 h
  exact ⟨t, ht, image, hi, rfl⟩

theorem declares_of_mem_nodes (h : d.nodes known s dir = .ok (bundles, nodes)) (hn : n ∈ nodes) :
    Declares known s dir d n := by
  cases d with
  | library d =>
    cases h
    obtain ⟨t, ht, image, hi, rfl⟩ := exists_of_mem_forVariants hn
    exact .library ht hi
  | binary d =>
    cases h
    obtain ⟨t, ht, image, hi, rfl⟩ := exists_of_mem_forVariants hn
    exact .binary ht hi
  | script d =>
    cases h
    obtain ⟨t, ht, rfl⟩ := List.mem_map.1 hn
    exact .script ht
  | prebuilt d =>
    cases h
    obtain ⟨t, ht, rfl⟩ := List.mem_map.1 hn
    exact .prebuilt ht
  | java d =>
    cases h
    obtain rfl := List.mem_singleton.1 hn
    exact .java
  | key d =>
    cases h
    obtain rfl := List.mem_singleton.1 hn
    exact .key
  | certificate d =>
    obtain ⟨m, hc, he⟩ := exists_of_map_eq_ok h
    cases he
    obtain rfl := List.mem_singleton.1 hn
    unfold CertificateDecl.node at hc
    split at hc
    · next c hp =>
      cases hc
      exact .certificate hp
    · cases hc
  | bundle d =>
    obtain ⟨b, hb, he⟩ := exists_of_map_eq_ok h
    cases he
    obtain rfl := List.mem_singleton.1 hn
    exact .bundle hb
  | defaults d =>
    cases h
    simp at hn

theorem fits_of_declares (hd : d.Keeps) (h : Declares known s dir d n) (setSystemApart : Bool) :
    n.Fits setSystemApart := by
  cases h with
  | library ht _ =>
    exact Node.fits_library rfl (isRelativeSubdir_getD hd.2) (s.isRelativeSubdir_arch ht)
  | binary _ _ => exact Node.fits_binary rfl hd.2.2
  | script _ => exact Node.fits_script rfl (isRelativeSubdir_getD hd.2)
  | java => exact Node.fits_java rfl
  | prebuilt _ => exact Node.fits_prebuilt rfl (isRelativeSubdir_getD hd.2)
  | key => exact Node.fits_of_no_place rfl rfl
  | certificate _ => exact Node.fits_of_no_place rfl rfl
  | bundle _ => exact Node.fits_of_no_place rfl rfl

theorem not_mem_of_matchesName {cs : List Char} (h : matchesName cs = true) : '/' ∉ cs := by
  obtain ⟨body, hcs, -, hbody⟩ := matchesName_iff.1 h
  have hslash : '/' ∉ body := fun hm => absurd (hbody _ hm) (by decide)
  rcases hcs with rfl | rfl
  · exact hslash
  · simp [hslash]

theorem name_dexJar {name : String} (h : matchesName name.toList = true) (p : Path) :
    (p / Path.ofString ("dex/" ++ name ++ ".jar") : Path).name = name ++ ".jar" := by
  have hslash : '/' ∉ (name ++ ".jar").toList := by
    simp only [String.toList_append, List.mem_append, not_or]
    exact ⟨not_mem_of_matchesName h, by decide⟩
  have hfile : IsComponent (name ++ ".jar") := by
    refine ⟨by simp, fun he => ?_, hslash⟩
    have hl := congrArg List.length he
    simp [show ".jar".toList = ['.', 'j', 'a', 'r'] from rfl] at hl
  have htext : (⟨.none, ["dex", name ++ ".jar"], by
      simpa using ⟨by decide, hfile⟩⟩ : Path).text = "dex/" ++ name ++ ".jar" := by
    simp [text, Root.text, String.append_assoc]
  rw [← htext, ofString_text]
  simp [Path.name, HDiv.hDiv, join]

theorem java_of_declares (hd : d.Keeps) (h : Declares known s dir d n) {j : JavaLibrary}
    {jar : Path} (hk : n.kind = .java j) (hj : j.dexJar = some jar) :
    jar.name = n.name ++ ".jar" ∧ n.variantId = s.commonTarget.variantName := by
  cases h with
  | java =>
    cases hk
    dsimp only at hj
    split at hj
    · cases hj
      exact ⟨name_dexJar hd _, by simp [JavaDecl.node, Node.variantId]⟩
    · cases hj
  | _ => cases hk

theorem bundles_of_nodes (h : d.nodes known s dir = .ok (bundles, nodes)) :
    bundles = [] ∨ ∃ b, bundles = [b] ∧ b.name = d.name ∧ b.toNode ∈ nodes ∧
      b.id = b.toNode.key ∧ b.deps = [] := by
  cases d with
  | certificate d =>
    obtain ⟨m, _, he⟩ := exists_of_map_eq_ok h
    cases he
    exact .inl rfl
  | bundle d =>
    obtain ⟨b, hr, he⟩ := exists_of_map_eq_ok h
    cases he
    refine .inr ⟨_, rfl, ?_, by simp, ?_, rfl⟩
    · obtain ⟨chosen, _, hb⟩ := exists_of_bind_eq_ok hr
      cases hb
      rfl
    · simp [Bundle.module, BundleModule.toNode, Node.key, Node.variantId]
  | _ =>
    cases h
    exact .inl rfl

end Declaration

namespace ModuleGraph

variable {g g' : ModuleGraph} {n : Node} {nodes : List Node}

theorem addAll_eq_ok (h : g.addAll nodes = .ok g') :
    g' = { g with members := g.members ++ nodes.map fun n => ⟨n.key, n⟩ } := by
  induction nodes generalizing g with
  | nil =>
    cases h
    simp
  | cons n rest ih =>
    unfold addAll at h
    split at h
    · next g₁ hg =>
      rw [ih h, add?_eq_some hg]
      simp
    · cases h

theorem Settled.addAll (hg : g.Settled) (h : g.addAll nodes = .ok g') : g'.Settled := by
  induction nodes generalizing g with
  | nil =>
    cases h
    exact hg
  | cons n rest ih =>
    unfold ModuleGraph.addAll at h
    split at h
    · next g₁ hadd => exact ih (hg.add? hadd) h
    · cases h

def linksOf (g : ModuleGraph) (n : Node) : List Edge :=
  n.deps.filterMap fun name => (g.find? name (ownSelector n)).map fun c =>
    ⟨n.key, c.id, .moduleDep, g.keyOf n.key⟩

theorem linksOf_congr (h : g'.members = g.members) : g'.linksOf = g.linksOf := by
  funext n
  simp only [linksOf, find?_congr h, keyOf_congr h]

theorem mem_linksOf_iff {e : Edge} :
    e ∈ g.linksOf n ↔ ∃ name ∈ n.deps, ∃ c, g.find? name (ownSelector n) = some c ∧
      ⟨n.key, c.id, .moduleDep, g.keyOf n.key⟩ = e := by
  simp only [linksOf, List.mem_filterMap, Option.map_eq_some_iff]

theorem linkAll_eq_ok (h : g.linkAll nodes = .ok g') :
    g' = { g with edges := g.edges ++ nodes.flatMap g.linksOf } := by
  induction nodes generalizing g with
  | nil =>
    cases h
    simp
  | cons n rest ih =>
    unfold linkAll at h
    split at h
    · next g₁ hadd =>
      obtain rfl : { g with edges := g.edges ++ g.linksOf n } = g₁ := congrArg Prod.fst hadd
      have hc : ModuleGraph.linksOf { g with edges := g.edges ++ g.linksOf n } = g.linksOf :=
        linksOf_congr rfl
      rw [ih h, hc]
      simp
    · cases h

theorem linkAll_spec (hg : g.Settled) (h : g.linkAll nodes = .ok g') :
    g'.Settled ∧ g'.members = g.members ∧
      ∀ e ∈ g'.edges, e ∈ g.edges ∨ ∃ n ∈ nodes, e ∈ g.linksOf n := by
  have he : ∀ e ∈ g'.edges, e ∈ g.edges ∨ ∃ n ∈ nodes, e ∈ g.linksOf n := by
    rw [linkAll_eq_ok h]
    simp
  have hm : g'.members = g.members := by rw [linkAll_eq_ok h]
  refine ⟨hg.of_members_eq hm fun e hme => ?_, hm, he⟩
  rcases he e hme with hold | ⟨n, _, hnew⟩
  · exact hg.source_eq e hold
  · obtain ⟨_, _, c, _, rfl⟩ := mem_linksOf_iff.1 hnew
    exact hg.keyOf_eq n.key

end ModuleGraph

theorem nodup_of_firstRepeated?_eq_none {names met : List String}
    (h : firstRepeated? names met = none) : names.Nodup ∧ ∀ n ∈ names, n ∉ met := by
  induction names generalizing met with
  | nil => simp
  | cons n rest ih =>
    unfold firstRepeated? at h
    split at h
    · cases h
    · next hn =>
      obtain ⟨hd, hm⟩ := ih h
      have hmet : n ∉ met := by simpa using hn
      refine ⟨List.nodup_cons.2 ⟨fun hmem => ?_, hd⟩, ?_⟩
      · exact hm n hmem (by simp)
      · intro m hmem
        rcases List.mem_cons.1 hmem with rfl | hmem
        · exact hmet
        · exact fun hin => hm m hmem (List.mem_cons_of_mem _ hin)

namespace Workspace

structure Registered (ds : List Declaration) (s : Settings) (dir : Path) (w : Workspace) :
    Prop where
  settled : w.graph.Settled
  edges : w.graph.edges = []
  variants : w.graph.variants = []
  declared : ∀ m ∈ w.graph.members, ∃ d ∈ ds, ∃ known, d.Declares known s dir m.node
  bundles : ∀ b ∈ w.bundles, ⟨b.id, b.toNode⟩ ∈ w.graph.members ∧ b.deps = []

variable {ds rest : List Declaration} {known : List BundleDefaults} {s : Settings} {dir : Path}
  {w w' : Workspace}

namespace Registered

theorem start (ds : List Declaration) (s : Settings) (dir : Path) :
    Registered ds s dir ⟨{}, [], s.targetList⟩ :=
  ⟨.empty, rfl, rfl, by simp, by simp⟩

theorem step {d : Declaration} {bundles : List BundleModule} {nodes : List Node}
    {graph : ModuleGraph} (hw : Registered ds s dir w) (hd : d ∈ ds)
    (hn : d.nodes known s dir = .ok (bundles, nodes)) (hg : w.graph.addAll nodes = .ok graph) :
    Registered ds s dir { w with graph, bundles := w.bundles ++ bundles } where
  settled := hw.settled.addAll hg
  edges := by
    rw [ModuleGraph.addAll_eq_ok hg]
    exact hw.edges
  variants := by
    rw [ModuleGraph.addAll_eq_ok hg]
    exact hw.variants
  declared := by
    intro m hm
    rw [ModuleGraph.addAll_eq_ok hg] at hm
    rcases List.mem_append.1 hm with hm | hm
    · exact hw.declared m hm
    · obtain ⟨n, hmem, rfl⟩ := List.mem_map.1 hm
      exact ⟨d, hd, known, Declaration.declares_of_mem_nodes hn hmem⟩
  bundles := by
    intro b hb
    rw [ModuleGraph.addAll_eq_ok hg]
    rcases List.mem_append.1 hb with hb | hb
    · obtain ⟨hm, hdeps⟩ := hw.bundles b hb
      exact ⟨List.mem_append_left _ hm, hdeps⟩
    · rcases Declaration.bundles_of_nodes hn with rfl | ⟨c, rfl, _, hmem, hid, hdeps⟩
      · simp at hb
      · obtain rfl := List.mem_singleton.1 hb
        rw [hid]
        exact ⟨List.mem_append_right _ (List.mem_map.2 ⟨_, hmem, rfl⟩), hdeps⟩

theorem register (hw : Registered ds s dir w) (hsub : ∀ d ∈ rest, d ∈ ds)
    (h : register known s dir w rest = .ok w') : Registered ds s dir w' := by
  induction rest generalizing w with
  | nil =>
    cases h
    exact hw
  | cons d rest ih =>
    obtain ⟨⟨bundles, nodes⟩, hn, h⟩ := exists_of_bind_eq_ok h
    obtain ⟨graph, hg, h⟩ := exists_of_bind_eq_ok h
    exact ih (hw.step (hsub d (by simp)) hn hg) (fun e he => hsub e (by simp [he])) h

end Registered

theorem exists_sublist_of_register (h : register known s dir w rest = .ok w') :
    ∃ names, names.Sublist (rest.map Declaration.name) ∧
      w'.bundles.map (·.name) = w.bundles.map (·.name) ++ names := by
  induction rest generalizing w with
  | nil =>
    cases h
    exact ⟨[], by simp, by simp⟩
  | cons d rest ih =>
    obtain ⟨⟨bundles, nodes⟩, hn, h⟩ := exists_of_bind_eq_ok h
    obtain ⟨graph, hg, h⟩ := exists_of_bind_eq_ok h
    obtain ⟨names, hsub, he⟩ := ih h
    rcases Declaration.bundles_of_nodes hn with rfl | ⟨b, rfl, hb, _⟩
    · exact ⟨names, hsub.cons _, by simpa using he⟩
    · exact ⟨d.name :: names, hsub.cons_cons _, by simpa [hb] using he⟩

/-- A workspace in which bundles can be assembled: every node can be put where it belongs, edges are
those the modules declare, and the bundles stand in the graph, under names of their own and without
edges. No variant has been made yet. -/
structure Sound (w : Workspace) : Prop where
  settled : w.graph.Settled
  fits : ∀ m ∈ w.graph.members, ∀ setSystemApart, m.node.Fits setSystemApart
  bundles : ∀ b ∈ w.bundles, w.graph.node? b.id = some b.toNode
  links : ∀ e ∈ w.graph.edges, ∃ m ∈ w.graph.members, e ∈ w.graph.linksOf m.node
  variants : w.graph.variants = []
  fresh : ∀ b ∈ w.bundles, w.graph.dependencies b.id = []
  names : (w.bundles.map (·.name)).Nodup

theorem ofDeclarations_eq_ok (h : ofDeclarations ds s dir = .ok w) :
    (ds.map Declaration.name).Nodup ∧ ∃ w₀ graph,
      register (Declaration.defaultsAmong ds) s dir ⟨{}, [], s.targetList⟩ ds = .ok w₀ ∧
        w₀.graph.linkAll w₀.graph.nodes = .ok graph ∧ w = { w₀ with graph } := by
  unfold ofDeclarations at h
  cases hr : firstRepeated? (ds.map Declaration.name) with
  | some name => simp [hr, bind, Except.bind, throw, throwThe, MonadExceptOf.throw] at h
  | none =>
    simp only [hr] at h
    obtain ⟨w₀, hw₀, h⟩ := exists_of_bind_eq_ok h
    obtain ⟨graph, hg, h⟩ := exists_of_bind_eq_ok h
    cases h
    exact ⟨(nodup_of_firstRepeated?_eq_none hr).1, w₀, graph, hw₀, hg, rfl⟩

theorem exists_declaration (h : ofDeclarations ds s dir = .ok w) {m : Member}
    (hm : m ∈ w.graph.members) : ∃ d ∈ ds, ∃ known, d.Declares known s dir m.node := by
  obtain ⟨_, w₀, graph, hw₀, hg, rfl⟩ := ofDeclarations_eq_ok h
  have hreg := (Registered.start ds s dir).register (fun d hd => hd) hw₀
  obtain ⟨_, hmem, _⟩ := ModuleGraph.linkAll_spec hreg.settled hg
  exact hreg.declared m (hmem ▸ hm)

/-- The workspace of declarations that keep the rules is sound. -/
theorem sound_of_ofDeclarations (hk : ∀ d ∈ ds, d.Keeps) (h : ofDeclarations ds s dir = .ok w) :
    w.Sound := by
  have hdecl (m : Member) (hm : m ∈ w.graph.members) := exists_declaration h hm
  obtain ⟨hnd, w₀, graph, hw₀, hg, rfl⟩ := ofDeclarations_eq_ok h
  have hreg := (Registered.start ds s dir).register (fun d hd => hd) hw₀
  obtain ⟨hset, hmem, hedges⟩ := ModuleGraph.linkAll_spec hreg.settled hg
  have hlinks (e : Edge) (he : e ∈ graph.edges) :
      ∃ m ∈ graph.members, e ∈ graph.linksOf m.node := by
    obtain ⟨n, hn, hlink⟩ := (hedges e he).resolve_left (by simp [hreg.edges])
    obtain ⟨m, hm, rfl⟩ := List.mem_map.1 hn
    exact ⟨m, hmem ▸ hm, ModuleGraph.linksOf_congr hmem ▸ hlink⟩
  refine ⟨hset, fun m hm => ?_, fun b hb => ?_, hlinks, ?_, fun b hb => ?_, ?_⟩
  · obtain ⟨d, hd, known, hin⟩ := hdecl m hm
    exact Declaration.fits_of_declares (hk d hd) hin
  · obtain ⟨hin, _⟩ := hreg.bundles b hb
    exact hset.node?_eq (hmem ▸ hin)
  · rw [ModuleGraph.linkAll_eq_ok hg]
    exact hreg.variants
  · obtain ⟨hin, hdeps⟩ := hreg.bundles b hb
    refine List.eq_nil_iff_forall_not_mem.2 fun e he => ?_
    obtain ⟨hme, hp⟩ := hset.mem_dependencies_iff.1 he
    obtain ⟨m, hm, hlink⟩ := hlinks e hme
    obtain ⟨name, hname, c, _, rfl⟩ := ModuleGraph.mem_linksOf_iff.1 hlink
    -- only the bundle itself has its key
    have hid : m.id = b.id := by rw [← hset.key_eq m hm, ← hp]
    have hnode : graph.node? b.id = some b.toNode := hset.node?_eq (hmem ▸ hin)
    rw [← hid, hset.node?_eq hm, Option.some.injEq] at hnode
    rw [hnode, show b.toNode.deps = [] from hdeps] at hname
    simp at hname
  · obtain ⟨names, hsub, he⟩ := exists_sublist_of_register hw₀
    rw [show w₀.bundles.map (·.name) = names by simpa using he]
    exact hsub.nodup hnd

end Workspace

end BundleWright
