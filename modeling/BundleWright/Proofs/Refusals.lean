import BundleWright.Proofs.Construction
import BundleWright.Proofs.Defaults
import Mathlib.Data.List.ProdSigma
/-!
Which lists of declarations are refused, and why. Main statement: a list makes a workspace just when
nothing is wrong with it, and the error of one that makes none says what is wrong; beside what the
declarations say it can only be that a target is named twice, or that a certificate has no name.
-/
namespace BundleWright

def WorkspaceError.IsDeclared : WorkspaceError → Prop
  | .nodeTaken _ | .namelessCertificate _ => False
  | _ => True

section Counting

variable {α β : Type} [DecidableEq α] [DecidableEq β]

theorem count_flatMap_of_once {l : List α} {f : α → List β} {a : α} {b : β}
    (h : ∀ x ∈ l, (f x).count b = if x = a then 1 else 0) : (l.flatMap f).count b = l.count a := by
  induction l with
  | nil => rfl
  | cons x l ih =>
    rw [List.flatMap_cons, List.count_append, h x List.mem_cons_self, List.count_cons,
      ih fun y hy => h y (List.mem_cons_of_mem x hy), Nat.add_comm]
    simp

end Counting

def nodeImages : List String := [coreImage, vendorImage]

theorem TargetOs.nodup_variantIds (os : TargetOs) : ((os.targets.product nodeImages).map fun b =>
    ({ name := "", target := b.1, image := b.2 } : Node).variantId).Nodup := by
  cases os <;> decide +kernel

/-- A variant says for which target and for which image it is built. -/
theorem Node.build_eq (os : TargetOs) {n m : Node} (hn : n.target ∈ os.targets)
    (hi : n.image ∈ nodeImages) (hm : m.target ∈ os.targets) (hj : m.image ∈ nodeImages)
    (h : n.variantId = m.variantId) : n.target = m.target ∧ n.image = m.image :=
  Prod.mk.inj (List.inj_on_of_nodup_map os.nodup_variantIds (List.mem_product.2 ⟨hn, hi⟩)
    (List.mem_product.2 ⟨hm, hj⟩) h)

namespace Declaration

variable {d : Declaration} {known : List BundleDefaults} {s : Settings} {dir : Path} {n : Node}
  {ds : List Declaration}

theorem mem_nodeImages {va : Option Bool} {image : String} (h : image ∈ imagesFor va) :
    image ∈ nodeImages := by
  rcases mem_imagesFor_iff.1 h with rfl | ⟨rfl, _⟩ <;> simp [nodeImages]

theorem nodup_imagesFor (va : Option Bool) : (imagesFor va).Nodup := by
  unfold imagesFor
  split <;> decide

theorem count_key_forVariants {va : Option Bool} {f : Target → String → Node}
    (hf : ∀ t, ∀ i ∈ imagesFor va, (f t i).target = t ∧ (f t i).image = i)
    {t : Target} (ht : t ∈ s.targetList) {image : String} (hi : image ∈ imagesFor va) :
    ((forVariants s va f).map Node.key).count (f t image).key = s.targetList.count t := by
  have hbuild {u u' : Target} (hu : u ∈ s.targetList) (hu' : u' ∈ s.targetList) {j j' : String}
      (hj : j ∈ imagesFor va) (hj' : j' ∈ imagesFor va) (hkey : (f u j).key = (f u' j').key) :
      u = u' ∧ j = j' := by
    obtain ⟨htarget, himage⟩ := hf u j hj
    obtain ⟨htarget', himage'⟩ := hf u' j' hj'
    have h := Node.build_eq s.targetOs (by rw [htarget]; exact s.mem_targets hu)
      (by rw [himage]; exact mem_nodeImages hj) (by rw [htarget']; exact s.mem_targets hu')
      (by rw [himage']; exact mem_nodeImages hj') (congrArg NodeKey.variant hkey)
    rwa [htarget, htarget', himage, himage'] at h
  rw [forVariants, List.map_flatMap]
  refine count_flatMap_of_once fun u hu => ?_
  rw [List.map_map]
  split
  · next h =>
    subst h
    exact List.count_eq_one_of_mem
      ((nodup_imagesFor va).map_on fun i hi j hj hkey => (hbuild hu hu hi hj hkey).2)
      (List.mem_map_of_mem hi)
  · next hne =>
    refine List.count_eq_zero.2 fun hmem => ?_
    obtain ⟨j, hj, hkey⟩ := List.mem_map.1 hmem
    exact hne (hbuild hu ht hj hi hkey).1

theorem count_key_targets {f : Target → Node}
    (hf : ∀ t, (f t).target = t ∧ (f t).image = coreImage) {t : Target} (ht : t ∈ s.targetList) :
    ((s.targetList.map f).map Node.key).count (f t).key = s.targetList.count t := by
  have hcore : ∀ i ∈ imagesFor none, i = coreImage := fun i hi => List.mem_singleton.1 hi
  have hmap : s.targetList.map f = forVariants s none fun t _ => f t := List.map_eq_flatMap
  rw [hmap]
  exact count_key_forVariants (f := fun t _ => f t)
    (fun t i hi => ⟨(hf t).1, (hf t).2.trans (hcore i hi).symm⟩) ht (List.mem_singleton.2 rfl)

theorem parts_certificate {d : CertificateDecl} {c : Certificate} (h : d.pair? dir = some c) :
    (certificate d).parts known s dir =
      ([], [{ name := d.name, target := s.commonTarget, kind := .certificate c }]) :=
  parts_eq (by simp [nodes, CertificateDecl.node, h, Except.map])

theorem parts_bundle {d b : Bundle} (h : d.resolved known = .ok b) :
    (bundle d).parts known s dir = ([b.module s dir], [(b.module s dir).toNode]) :=
  parts_eq (by simp [nodes, h, Except.map])

theorem mem_parts_iff : n ∈ (d.parts known s dir).2 ↔ d.Declares known s dir n := by
  constructor
  · intro hn
    cases hp : d.nodes known s dir with
    | error e => simp [parts_of_error hp] at hn
    | ok p =>
      rw [parts_eq hp] at hn
      exact declares_of_mem_nodes hp hn
  · intro h
    cases h with
    | library ht hi => exact mem_forVariants ht (mem_imagesFor_iff.1 hi)
    | binary ht hi => exact mem_forVariants ht (mem_imagesFor_iff.1 hi)
    | script ht => exact List.mem_map_of_mem ht
    | prebuilt ht => exact List.mem_map_of_mem ht
    | java => exact List.mem_singleton.2 rfl
    | key => exact List.mem_singleton.2 rfl
    | certificate hp => simp [parts_certificate hp]
    | bundle hr => simp [parts_bundle hr]

theorem mem_builtNodes_iff :
    n ∈ builtNodes known s dir ds ↔ ∃ d ∈ ds, d.Declares known s dir n := by
  simp only [builtNodes, List.mem_flatMap, mem_parts_iff]

namespace Declares

/-- The nodes of a declaration of their own are told apart, or they are as many as the targets. -/
theorem count_key_cases (h : Declares known s dir d n) :
    ((d.parts known s dir).2.map Node.key).count n.key = s.targetList.count n.target ∨
      (d.parts known s dir).2 = [n] ∧ n.target = s.commonTarget := by
  cases h with
  | library ht hi => exact .inl (count_key_forVariants (fun _ _ _ => ⟨rfl, rfl⟩) ht hi)
  | binary ht hi => exact .inl (count_key_forVariants (fun _ _ _ => ⟨rfl, rfl⟩) ht hi)
  | script ht => exact .inl (count_key_targets (fun _ => ⟨rfl, rfl⟩) ht)
  | prebuilt ht => exact .inl (count_key_targets (fun _ => ⟨rfl, rfl⟩) ht)
  | java => exact .inr ⟨rfl, rfl⟩
  | key => exact .inr ⟨rfl, rfl⟩
  | certificate hp => exact .inr ⟨congrArg Prod.snd (parts_certificate hp), rfl⟩
  | bundle hr => exact .inr ⟨congrArg Prod.snd (parts_bundle hr), rfl⟩

theorem two_le_count_key_iff (h : Declares known s dir d n) :
    2 ≤ ((d.parts known s dir).2.map Node.key).count n.key ↔ 2 ≤ s.targetList.count n.target := by
  rcases h.count_key_cases with hcount | ⟨hone, ht⟩
  · rw [hcount]
  · rw [hone, ht, List.count_eq_zero.2 s.common_not_mem_targetList]
    simp

end Declares

theorem two_le_count_key_iff (hnames : (ds.map Declaration.name).Nodup) (hd : d ∈ ds)
    (h : d.Declares known s dir n) :
    2 ≤ ((builtNodes known s dir ds).map Node.key).count n.key ↔
      2 ≤ s.targetList.count n.target := by
  have hown : (builtNodes known s dir ds).filter (·.name = n.name) = (d.parts known s dir).2 := by
    -- a key holds the name, and no other declaration gives nodes of this name
    rw [filter_builtNodes, h.name_eq, filter_key_eq_singleton hnames hd]
    exact List.flatMap_singleton _ _
  have hcount : ((builtNodes known s dir ds).map Node.key).count n.key =
      ((d.parts known s dir).2.map Node.key).count n.key := by
    rw [← hown, List.count_eq_countP, List.count_eq_countP, List.countP_map, List.countP_map,
      List.countP_filter]
    refine List.countP_congr fun m _ => ?_
    simp only [Function.comp_apply, beq_iff_eq, Bool.and_eq_true, decide_eq_true_eq, iff_self_and]
    exact congrArg NodeKey.name
  rw [hcount, h.two_le_count_key_iff]

end Declaration

theorem two_le_count_of_firstRepeated? {names met : List String} {name : String}
    (h : firstRepeated? names met = some name) : 2 ≤ (met ++ names).count name := by
  induction names generalizing met with
  | nil => cases h
  | cons n rest ih =>
    unfold firstRepeated? at h
    split at h
    · next hmet =>
      cases h
      have hcount : 0 < met.count name := List.count_pos_iff.2 (by simpa using hmet)
      rw [List.count_append, List.count_cons_self]
      omega
    · have hcount := ih h
      simp only [List.count_append, List.count_cons] at hcount ⊢
      omega

namespace ModuleGraph

variable {g : ModuleGraph} {nodes : List Node} {e : WorkspaceError}

theorem exists_of_addAll_eq_error (h : g.addAll nodes = .error e) : ∃ n ∈ nodes,
    e = .nodeTaken n.key ∧ 2 ≤ (g.members.map Member.id ++ nodes.map Node.key).count n.key := by
  induction nodes generalizing g with
  | nil => cases h
  | cons n rest ih =>
    unfold addAll at h
    split at h
    · next g₁ hadd =>
      obtain ⟨-, rfl⟩ := add?_eq_some_iff.1 hadd
      obtain ⟨m, hm, rfl, hcount⟩ := ih h
      exact ⟨m, List.mem_cons_of_mem n hm, rfl, by simpa using hcount⟩
    · next hadd =>
      cases h
      have htaken : n.key ∈ g.members.map Member.id := by
        by_contra hn
        exact absurd (hadd.symm.trans (add?_eq_some_iff.2 ⟨hn, rfl⟩)) nofun
      refine ⟨n, List.mem_cons_self, rfl, ?_⟩
      have hcount := List.count_pos_iff.2 htaken
      rw [List.count_append, List.map_cons, List.count_cons_self]
      omega

theorem exists_of_linkAll_eq_error (h : g.linkAll nodes = .error e) : ∃ n ∈ nodes, ∃ names,
    e = .undefinedModules n.key names ∧ names ≠ [] ∧
      names = n.deps.filter fun name => (g.find? name (ownSelector n)).isNone := by
  -- the graph grows by edges only, so what is searched is the same for every node
  induction nodes generalizing g with
  | nil => cases h
  | cons n rest ih =>
    rw [linkAll, addDependencies_own] at h
    split at h
    · next g₁ hadd =>
      obtain ⟨rfl, -⟩ := Prod.mk.inj hadd
      obtain ⟨m, hm, names, he, hne, hnames⟩ := ih h
      refine ⟨m, List.mem_cons_of_mem n hm, names, he, hne, hnames.trans ?_⟩
      simp only [find?_congr (g.members_withEdges _)]
    · next missing hne hadd =>
      cases h
      exact ⟨n, List.mem_cons_self, missing, rfl, hne, (Prod.mk.inj hadd).2.symm⟩

theorem find?_ofNodes_isSome_iff {n : Node} (hn : n.isNative = true ∨ ∃ j, n.kind = .java j)
    {name : String} : ((ofNodes nodes).find? name (ownSelector n)).isSome = true ↔
      ∃ c ∈ nodes, c.name = name ∧ n.BuiltAlike c := by
  rw [find?, named_ofNodes, List.find?_isSome]
  simp only [List.mem_map, List.mem_filter, decide_eq_true_eq, Node.agrees_iff_matches,
    ← Node.matches_ownSelector_iff hn]
  constructor
  · rintro ⟨_, ⟨c, ⟨hc, hname⟩, rfl⟩, hmatches⟩
    exact ⟨c, hc, hname, hmatches⟩
  · rintro ⟨c, hc, hname, hmatches⟩
    exact ⟨_, ⟨c, ⟨hc, hname⟩, rfl⟩, hmatches⟩

end ModuleGraph

namespace Path

theorem parts_of_name_empty {p : Path} (h : p.name = "") : p.parts = [] := by
  by_contra hne
  have hlast : p.parts.getLast? = some (p.parts.getLast hne) := List.getLast?_eq_some_getLast hne
  rw [name, hlast, Option.getD_some] at h
  exact (p.proper _ (List.getLast_mem hne)).1 (by rw [h]; rfl)

theorem isComponent_append {c suffix : String} (h : IsComponent c) (hs : IsComponent suffix) :
    IsComponent (c ++ suffix) := by
  obtain ⟨hc, -, hslash⟩ := h
  refine ⟨by simpa using fun h => absurd h (by simpa using hc), fun hdot => ?_, ?_⟩
  · have hlen := congrArg List.length hdot
    have hpos := List.length_pos_iff.2 hc
    have hpos' := List.length_pos_iff.2 hs.1
    simp only [String.toList_append, List.length_append, List.length_singleton] at hlen
    omega
  · simp only [String.toList_append, List.mem_append, not_or]
    exact ⟨hslash, hs.2.2⟩

theorem isSome_withName? {p : Path} (hp : p.name ≠ "") {suffix : String}
    (hs : IsComponent suffix) : (p.withName? (p.name ++ suffix)).isSome = true := by
  have hparts : p.parts ≠ [] := fun h => hp (by simp [name, h])
  rw [withName?, if_neg hparts, dif_pos (isComponent_append (isComponent_name hp) hs)]
  rfl

end Path

namespace Declaration

variable {d : Declaration} {known : List BundleDefaults} {s : Settings} {dir : Path}
  {e : WorkspaceError}

theorem resolved_eq_error {b : Bundle} (h : b.resolved known = .error e) :
    ∃ name ∈ b.defaults, known.find? (·.name = name) = none ∧
      e = .unknownDefaults b.name name := by
  rcases eq_or_exists_of_bind_eq_error h with h | ⟨_, _, h⟩
  · obtain ⟨name, hname, h⟩ := exists_of_mapM_eq_error h
    split at h
    · cases h
    · next hnone =>
      cases h
      exact ⟨name, hname, hnone, rfl⟩
  · cases h

theorem find?_of_resolved {b b' : Bundle} (h : b.resolved known = .ok b') {name : String}
    (hname : name ∈ b.defaults) : known.find? (·.name = name) ≠ none := by
  intro hnone
  obtain ⟨chosen, hchosen, _⟩ := exists_of_bind_eq_ok h
  have hmem := mapM_eq_ok_iff.1 hchosen ▸ List.mem_map_of_mem hname
  obtain ⟨x, _, hx⟩ := List.mem_map.1 hmem
  rw [hnone] at hx
  cases hx

theorem pair?_eq_none_iff {c : CertificateDecl} :
    c.pair? dir = none ↔ (dir / c.certificate : Path).name = "" := by
  unfold CertificateDecl.pair?
  constructor
  · intro hnone
    by_contra hname
    obtain ⟨pem, hpem⟩ := Option.isSome_iff_exists.1
      (Path.isSome_withName? hname (by decide : Path.IsComponent ".x509.pem"))
    obtain ⟨key, hkey⟩ := Option.isSome_iff_exists.1
      (Path.isSome_withName? hname (by decide : Path.IsComponent ".pk8"))
    simp [hpem, hkey] at hnone
  · intro hname
    simp [Path.withName?, Path.parts_of_name_empty hname]

theorem nodes_eq_error (h : d.nodes known s dir = .error e) :
    (∃ b, d = .bundle b ∧ ∃ name ∈ b.defaults, known.find? (·.name = name) = none ∧
        e = .unknownDefaults b.name name) ∨
      ∃ c, d = .certificate c ∧ (dir / c.certificate : Path).name = "" ∧
        e = .namelessCertificate (dir / c.certificate) := by
  cases d with
  | bundle b =>
    cases hb : b.resolved known with
    | error e' =>
      simp only [nodes, hb, Except.map] at h
      cases h
      exact .inl ⟨b, rfl, resolved_eq_error hb⟩
    | ok b' =>
      simp only [nodes, hb, Except.map] at h
      cases h
  | certificate c =>
    cases hc : c.pair? dir with
    | some pair =>
      simp only [nodes, CertificateDecl.node, hc, Except.map] at h
      cases h
    | none =>
      simp only [nodes, CertificateDecl.node, hc, Except.map] at h
      cases h
      exact .inr ⟨c, rfl, pair?_eq_none_iff.1 hc, rfl⟩
  | _ => cases h

theorem mem_defaultsAmong {ds : List Declaration} {x : BundleDefaults} :
    x ∈ defaultsAmong ds ↔ .defaults x ∈ ds := by
  unfold defaultsAmong
  rw [List.mem_filterMap]
  constructor
  · rintro ⟨d, hd, h⟩
    split at h
    · cases h
      exact hd
    · cases h
  · exact fun h => ⟨_, h, rfl⟩

theorem find?_defaultsAmong_eq_none_iff {ds : List Declaration} {name : String} :
    (defaultsAmong ds).find? (·.name = name) = none ↔ ∀ x, .defaults x ∈ ds → x.name ≠ name := by
  simp only [List.find?_eq_none, mem_defaultsAmong, decide_eq_true_eq]

end Declaration

namespace Workspace

open Declaration ModuleGraph

variable {ds : List Declaration} {s : Settings} {dir : Path} {n : Node} {w : Workspace}
  {e : WorkspaceError}

def Makes (ds : List Declaration) (s : Settings) (dir : Path) (n : Node) : Prop :=
  ∃ d ∈ ds, d.Declares (defaultsAmong ds) s dir n

/-- What is wrong with declarations, with the error for it. The first three are faults of what they
say; the others come of a target that is named twice and of a certificate whose path has no name. -/
inductive Faulty (ds : List Declaration) (s : Settings) (dir : Path) : WorkspaceError → Prop
  | repeatedName {name : String} : 2 ≤ (ds.map Declaration.name).count name →
      Faulty ds s dir (.repeatedName name)
  | unknownDefaults {b : Bundle} {name : String} : .bundle b ∈ ds → name ∈ b.defaults →
      (∀ x, .defaults x ∈ ds → x.name ≠ name) → Faulty ds s dir (.unknownDefaults b.name name)
  | undefinedModules {n : Node} {names : List String} : Makes ds s dir n → names ≠ [] →
      names.Sublist n.deps →
      (∀ name ∈ n.deps, name ∈ names ↔ ∀ c, Makes ds s dir c → c.name = name → ¬n.BuiltAlike c) →
        Faulty ds s dir (.undefinedModules n.key names)
  | nodeTaken {n : Node} : Makes ds s dir n → 2 ≤ s.targetList.count n.target →
      Faulty ds s dir (.nodeTaken n.key)
  | namelessCertificate {c : CertificateDecl} : .certificate c ∈ ds →
      (dir / c.certificate : Path).name = "" →
        Faulty ds s dir (.namelessCertificate (dir / c.certificate))

theorem mem_builtNodes_iff_makes :
    n ∈ builtNodes (defaultsAmong ds) s dir ds ↔ Makes ds s dir n :=
  mem_builtNodes_iff

/-- Declarations are registered up to the first that cannot be built or gives a node once more. -/
theorem register_eq_error {known : List BundleDefaults}
    (h : register known s dir w ds = .error e) :
    (∃ d ∈ ds, d.nodes known s dir = .error e) ∨
      ∃ n ∈ builtNodes known s dir ds, e = .nodeTaken n.key ∧
        2 ≤ (w.graph.members.map Member.id ++
          (builtNodes known s dir ds).map Node.key).count n.key := by
  induction ds generalizing w with
  | nil => cases h
  | cons d ds ih =>
    rcases eq_or_exists_of_bind_eq_error h with h | ⟨⟨bundles, nodes⟩, hp, h⟩
    · exact .inl ⟨d, List.mem_cons_self, h⟩
    have hcons : builtNodes known s dir (d :: ds) = nodes ++ builtNodes known s dir ds := by
      rw [builtNodes, List.flatMap_cons, parts_eq hp]
      rfl
    rw [hcons]
    rcases eq_or_exists_of_bind_eq_error h with h | ⟨g, hg, h⟩
    · obtain ⟨n, hn, he, hcount⟩ := exists_of_addAll_eq_error h
      refine .inr ⟨n, List.mem_append_left _ hn, he, Nat.le_trans hcount ?_⟩
      simp only [List.map_append, List.count_append]
      omega
    · have hmembers : g.members.map Member.id =
          w.graph.members.map Member.id ++ nodes.map Node.key := by
        rw [addAll_eq_ok hg]
        simp
      rcases ih h with ⟨x, hx, he⟩ | ⟨n, hn, he, hcount⟩
      · exact .inl ⟨x, List.mem_cons_of_mem d hx, he⟩
      · refine .inr ⟨n, List.mem_append_right _ hn, he, ?_⟩
        rw [hmembers] at hcount
        rwa [List.map_append, ← List.append_assoc]

theorem faulty_of_nodes_eq_error {d : Declaration} (hd : d ∈ ds)
    (h : d.nodes (defaultsAmong ds) s dir = .error e) : Faulty ds s dir e := by
  rcases nodes_eq_error h with ⟨b, rfl, name, hname, hnone, rfl⟩ | ⟨c, rfl, hc, rfl⟩
  · exact .unknownDefaults hd hname (find?_defaultsAmong_eq_none_iff.1 hnone)
  · exact .namelessCertificate hd hc

theorem find?_isNone_iff (hn : Makes ds s dir n) {name : String} (hname : name ∈ n.deps) :
    ((ofNodes (builtNodes (defaultsAmong ds) s dir ds)).find? name (ownSelector n)).isNone = true ↔
      ∀ c, Makes ds s dir c → c.name = name → ¬n.BuiltAlike c := by
  obtain ⟨d, _, hd⟩ := hn
  have hkind : n.isNative = true ∨ ∃ j, n.kind = .java j :=
    (hd.native_or_java_of_deps (List.ne_nil_of_mem hname)).imp_right And.left
  rw [← Option.not_isSome, Bool.not_eq_true', ← Bool.not_eq_true, find?_ofNodes_isSome_iff hkind]
  simp only [mem_builtNodes_iff_makes, not_exists, not_and]

/-- The error of declarations that make no workspace says what is wrong with them. -/
theorem faulty_of_eq_error (h : ofDeclarations ds s dir = .error e) : Faulty ds s dir e := by
  unfold ofDeclarations at h
  cases hrep : firstRepeated? (ds.map Declaration.name) with
  | some name =>
    simp only [hrep] at h
    cases h
    exact .repeatedName (two_le_count_of_firstRepeated? hrep)
  | none =>
    have hnames := (firstRepeated?_eq_none_iff.1 hrep).1
    simp only [hrep] at h
    rcases eq_or_exists_of_bind_eq_error h with h | ⟨w, hw, h⟩
    · rcases register_eq_error h with ⟨d, hd, h⟩ | ⟨n, hn, rfl, hcount⟩
      · exact faulty_of_nodes_eq_error hd h
      · obtain ⟨d, hd, hdecl⟩ := mem_builtNodes_iff.1 hn
        exact .nodeTaken ⟨d, hd, hdecl⟩ ((two_le_count_key_iff hnames hd hdecl).1 hcount)
    · obtain ⟨-, hadd, -, -⟩ := register_eq_ok_iff.1 hw
      have hgraph : w.graph = ofNodes (builtNodes (defaultsAmong ds) s dir ds) := addAll_eq_ok hadd
      rcases eq_or_exists_of_bind_eq_error h with h | ⟨_, _, h⟩
      · obtain ⟨n, hn, names, rfl, hne, hnames⟩ := exists_of_linkAll_eq_error h
        rw [hgraph, nodes_ofNodes] at hn
        rw [hgraph] at hnames
        have hmakes := mem_builtNodes_iff_makes.1 hn
        refine .undefinedModules hmakes hne (hnames ▸ List.filter_sublist) fun name hname => ?_
        rw [hnames, List.mem_filter, and_iff_right hname]
        exact find?_isNone_iff hmakes hname
      · cases h

theorem not_faulty_of_eq_ok (h : ofDeclarations ds s dir = .ok w) : ¬Faulty ds s dir e := by
  obtain ⟨hnames, hparts, hkeys, hfinds, -⟩ := ofDeclarations_eq_ok_iff.1 h
  intro hfaulty
  cases hfaulty with
  | @repeatedName name hcount =>
    have hone := List.nodup_iff_count_le_one.1 hnames name
    omega
  | @unknownDefaults b name hb hname hnone =>
    obtain ⟨p, hp⟩ := hparts _ hb
    obtain ⟨b', hb', -⟩ := exists_of_map_eq_ok hp
    exact find?_of_resolved hb' hname (find?_defaultsAmong_eq_none_iff.2 hnone)
  | @undefinedModules n names hn hne hsub hmissing =>
    obtain ⟨name, hname⟩ := List.exists_mem_of_ne_nil names hne
    have hdep := hsub.subset hname
    have hfound := hfinds n (mem_builtNodes_iff_makes.2 hn) name hdep
    have hnone := (find?_isNone_iff hn hdep).2 ((hmissing name hdep).1 hname)
    rw [Option.isNone_iff_eq_none.1 hnone] at hfound
    cases hfound
  | @nodeTaken n hn hcount =>
    obtain ⟨d, hd, hdecl⟩ := hn
    have htwice := (two_le_count_key_iff hnames hd hdecl).2 hcount
    have hone := List.nodup_iff_count_le_one.1 hkeys n.key
    omega
  | @namelessCertificate c hc hname =>
    obtain ⟨p, hp⟩ := hparts _ hc
    obtain ⟨m, hm, -⟩ := exists_of_map_eq_ok hp
    unfold CertificateDecl.node at hm
    rw [pair?_eq_none_iff.2 hname] at hm
    cases hm

end Workspace

namespace Declaration

open Checked

variable {doc : Datum} {ds : List Declaration}

theorem sound_of_reader {word : String} {r : Datum → Checked Declaration} {j : Datum}
    {d : Declaration} (hr : reader? word = some r) (h : r j = .sound d) :
    (∀ b, d = .bundle b → readBundle j = .sound b) ∧
      ∀ x, d = .defaults x → readDefaults j = .sound x := by
  unfold reader? at hr
  split at hr
  all_goals cases hr
  all_goals obtain ⟨y, hy, rfl⟩ := map_eq_sound_iff.1 h
  all_goals
    constructor
    all_goals
      intro x hx
      cases hx
    all_goals exact hy

theorem exists_accepted_bundle (h : readDocument doc = .sound ds) {b : Bundle}
    (hb : .bundle b ∈ ds) : ∃ a : Accepted readBundle, a.value = b := by
  obtain ⟨j, hj⟩ := exists_read_of_readDocument h hb
  obtain ⟨word, r, hr, hj⟩ := exists_reader_of_read hj
  exact ⟨⟨j, b, (sound_of_reader hr hj).1 b rfl⟩, rfl⟩

theorem exists_accepted_defaults (h : readDocument doc = .sound ds) {x : BundleDefaults}
    (hx : .defaults x ∈ ds) : ∃ a : Accepted readDefaults, a.value = x := by
  obtain ⟨j, hj⟩ := exists_read_of_readDocument h hx
  obtain ⟨word, r, hr, hj⟩ := exists_reader_of_read hj
  exact ⟨⟨j, x, (sound_of_reader hr hj).2 x rfl⟩, rfl⟩

theorem exists_merged (h : readDocument doc = .sound ds) {b : Bundle} (hb : .bundle b ∈ ds)
    {chosen : List BundleDefaults} (hchosen : ∀ x ∈ chosen, .defaults x ∈ ds) :
    ∃ (a : Accepted readBundle) (xs : List (Accepted readDefaults)), a.value = b ∧
      xs.map (·.value) = chosen ∧
        readBundle (mergedBundle a xs) = .sound (b.withDefaults chosen) := by
  obtain ⟨a, rfl⟩ := exists_accepted_bundle h hb
  have hxs : ∃ xs : List (Accepted readDefaults), xs.map (·.value) = chosen := by
    induction chosen with
    | nil => exact ⟨[], rfl⟩
    | cons x chosen ih =>
      obtain ⟨hx, hrest⟩ := List.forall_mem_cons.1 hchosen
      obtain ⟨y, rfl⟩ := exists_accepted_defaults h hx
      obtain ⟨ys, rfl⟩ := ih hrest
      exact ⟨y :: ys, rfl⟩
  obtain ⟨xs, rfl⟩ := hxs
  exact ⟨a, xs, rfl, rfl, readBundle_mergedBundle a xs⟩

end Declaration

theorem TargetOs.target_injective (os : TargetOs) (native : Bool) :
    Function.Injective (os.target native) := by
  intro a b h
  have hword : a.word = b.word := congrArg Target.arch h
  cases a <;> cases b <;> first | rfl | exact absurd hword (by decide)

theorem Settings.nodup_targetList {s : Settings} (h : s.targets.Nodup)
    (h' : s.nativeBridgeTargets.Nodup) : s.targetList.Nodup := by
  refine List.nodup_append.2 ⟨h.map (s.targetOs.target_injective true),
    h'.map (s.targetOs.target_injective false), fun t ht u hu he => ?_⟩
  obtain ⟨a, _, rfl⟩ := List.mem_map.1 ht
  obtain ⟨b, _, rfl⟩ := List.mem_map.1 hu
  exact absurd (congrArg Target.native he) (by simp [TargetOs.target])

namespace Workspace

open Declaration

/-- Declarations of an accepted document make a workspace just when nothing is wrong with them, and
the error of those that make none says what is wrong. Where no target is named twice and every
certificate has a name, that is something that the declarations say. Merging defaults into a bundle
is never what is wrong. -/
theorem refused_iff_faulty {doc : Datum} {ds : List Declaration}
    (hd : readDocument doc = .sound ds) (s : Settings) (dir : Path) :
    ((∃ w, ofDeclarations ds s dir = .ok w) ↔ ∀ e, ¬Faulty ds s dir e) ∧
    (∀ e, ofDeclarations ds s dir = .error e → Faulty ds s dir e) ∧
    (s.targets.Nodup → s.nativeBridgeTargets.Nodup →
      (∀ c : CertificateDecl, .certificate c ∈ ds → (dir / c.certificate : Path).name ≠ "") →
        ∀ e, Faulty ds s dir e → e.IsDeclared) ∧
    ∀ b, .bundle b ∈ ds → ∀ chosen : List BundleDefaults, (∀ x ∈ chosen, .defaults x ∈ ds) →
      ∃ (a : Accepted readBundle) (xs : List (Accepted readDefaults)), a.value = b ∧
        xs.map (·.value) = chosen ∧
          readBundle (mergedBundle a xs) = .sound (b.withDefaults chosen) := by
  refine ⟨⟨?_, fun hnone => ?_⟩, fun e => faulty_of_eq_error, fun ht ht' hc e he => ?_,
    fun b hb chosen hchosen => exists_merged hd hb hchosen⟩
  · rintro ⟨w, hw⟩ e
    exact not_faulty_of_eq_ok hw
  · cases h : ofDeclarations ds s dir with
    | error e => exact absurd (faulty_of_eq_error h) (hnone e)
    | ok w => exact ⟨w, rfl⟩
  · cases he with
    | @nodeTaken n _ hcount =>
      have hone := List.nodup_iff_count_le_one.1 (s.nodup_targetList ht ht') n.target
      omega
    | namelessCertificate hmem hname => exact absurd hname (hc _ hmem)
    | _ => trivial

def needy : Datum := .obj [("modules", .arr [
  .obj [("type", .str "cc_library"), ("name", .str "a"), ("shared_libs", .arr [.str "x"])],
  .obj [("type", .str "apex_defaults"), ("name", .str "d"), ("key", .str "k")],
  .obj [("type", .str "apex"), ("name", .str "z"), ("defaults", .arr [.str "d"])]])]

def needyModules : List Declaration := [
  .library { flavor := .library, name := "a", sharedLibs := ["x"] },
  .defaults { name := "d", properties := { key := some "k" } },
  .bundle { name := "z", defaults := ["d"] }]

theorem readDocument_needy : readDocument needy = .sound needyModules := rfl

theorem refused_iff_faulty_needy : ∃ e,
    ofDeclarations needyModules (.within .here) .here = .error e ∧
      e = .undefinedModules ⟨"a", "android_arm64"⟩ ["x"] ∧
      Faulty needyModules (.within .here) .here e ∧ e.IsDeclared ∧
      ∃ a xs, readBundle (mergedBundle a xs) =
        .sound { name := "z", defaults := ["d"], properties := { key := some "k" } } := by
  obtain ⟨-, hfaulty, hdeclared, hmerged⟩ :=
    refused_iff_faulty readDocument_needy (.within .here) .here
  have herror : ofDeclarations needyModules (.within .here) .here =
      .error (.undefinedModules ⟨"a", "android_arm64"⟩ ["x"]) := rfl
  have hfault := hfaulty _ herror
  obtain ⟨a, xs, -, -, hread⟩ := hmerged { name := "z", defaults := ["d"] }
    (by simp [needyModules]) [{ name := "d", properties := { key := some "k" } }]
    (by simp [needyModules])
  refine ⟨_, herror, rfl, hfault, hdeclared (by decide) (by decide) ?_ _ hfault, a, xs, hread⟩
  simp [needyModules]

/-- An architecture that is named twice and a certificate without a name are refused with errors
that are not about what is declared. -/
theorem refused_undeclared :
    (∃ doc ds s e, readDocument doc = .sound ds ∧ ofDeclarations ds s .here = .error e ∧
      e = .nodeTaken ⟨"a", "android_arm64"⟩ ∧ ¬e.IsDeclared) ∧
    ∃ doc ds e, readDocument doc = .sound ds ∧
      ofDeclarations ds (.within .here) .here = .error e ∧
      e = .namelessCertificate (.ofString "/") ∧ ¬e.IsDeclared := by
  refine ⟨⟨.obj [("modules", .arr [.obj [("type", .str "cc_library"), ("name", .str "a")]])],
      [.library { flavor := .library, name := "a" }],
      { Settings.within .here with targets := [.arm64, .arm64] }, _, rfl, rfl, rfl, id⟩, ?_⟩
  exact ⟨.obj [("modules", .arr [.obj [("type", .str "android_app_certificate"),
      ("name", .str "c"), ("certificate", .str "/")]])],
    [.certificate { name := "c", certificate := "/" }], _, rfl, rfl, by decide +kernel, id⟩

end Workspace

end BundleWright
