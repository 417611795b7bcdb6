import BundleWright.Proofs.FailStop
/-!
The ways that paths take through a tree. Main statements: a way is found as the steps of a relation;
it stays when the tree grows; two trees that do not contradict each other lead to the same entry;
and below a directory without links a way goes where its components say.
-/
namespace BundleWright.FileTree

/-- Whether a component is the name of an entry and can be looked for when `rest` follows. -/
structure Named (reach : Reach) (c : String) (rest : List String) : Prop where
  ne_empty : c ≠ ""
  ne_dot : c ≠ "."
  ne_up : c ≠ ".."
  made : ¬(reach = .creation ∧ rest = [""])
  short : c.utf8ByteSize ≤ longestName

theorem Named.of_not {reach : Reach} {c : String} {rest : List String} (h : ¬(c = "" ∨ c = "."))
    (hup : ¬c = "..") (hmade : ¬(reach = .creation ∧ rest = [""]))
    (hshort : ¬longestName < c.utf8ByteSize) : Named reach c rest :=
  ⟨mt .inl h, mt .inr h, hup, hmade, Nat.not_lt.1 hshort⟩

def linkStart (target : String) (dir : Location) : Location :=
  if (Path.ofString target).isAbsolute then [] else dir

/-- How some steps lead from one place to another, if at most `n` links are followed. -/
inductive Leads (t : FileTree) (reach : Reach) : Nat → Location → List String → Location → Prop
  | done {n : Nat} {dir : Location} : Leads t reach n dir [] dir
  | skip {n : Nat} {dir l : Location} {c : String} {rest : List String} :
      c = "" ∨ c = "." → Leads t reach n dir rest l → Leads t reach n dir (c :: rest) l
  | up {n : Nat} {dir l : Location} {rest : List String} :
      Leads t reach n dir.dropLast rest l → Leads t reach n dir (".." :: rest) l
  | last {n : Nat} {dir : Location} {c : String} : Named reach c [] →
      (∀ target, t.get? (dir ++ [c]) = some (.link target) → reach = .entry) →
        Leads t reach n dir [c] (dir ++ [c])
  | enter {n : Nat} {dir l : Location} {c : String} {rest : List String} :
      Named reach c rest → rest ≠ [] → t.get? (dir ++ [c]) = some .dir →
        Leads t reach n (dir ++ [c]) rest l → Leads t reach n dir (c :: rest) l
  | follow {n : Nat} {dir l : Location} {c target : String} {rest : List String} :
      Named reach c rest → (rest = [] → reach ≠ .entry) →
        t.get? (dir ++ [c]) = some (.link target) →
          Leads t reach n (linkStart target dir) (linkSteps target ++ rest) l →
            Leads t reach (n + 1) dir (c :: rest) l

section Descend

variable {t : FileTree} {reach : Reach} {n : Nat} {dir l : Location} {c : String}
  {rest steps : List String}

theorem descend_nil : descend t reach n dir [] = .ok dir := by rw [descend]

theorem descend_skip (h : c = "" ∨ c = ".") :
    descend t reach n dir (c :: rest) = descend t reach n dir rest := by
  rw [descend, if_pos h]

theorem descend_up :
    descend t reach n dir (".." :: rest) = descend t reach n dir.dropLast rest := by
  rw [descend, if_neg (by decide), if_pos rfl]

theorem descend_named (h : Named reach c rest) : descend t reach n dir (c :: rest) =
    match t.get? (dir ++ [c]) with
    | none => if rest = [] then .ok (dir ++ [c]) else .error .noEntry
    | some .dir => descend t reach n (dir ++ [c]) rest
    | some (.file _) => if rest = [] then .ok (dir ++ [c]) else .error .notDirectory
    | some (.link target) =>
      if rest = [] ∧ reach = .entry then .ok (dir ++ [c])
      else
        match n with
        | 0 => .error .tooManyLinks
        | n + 1 => descend t reach n (linkStart target dir) (linkSteps target ++ rest) := by
  rw [descend, if_neg (not_or.2 ⟨h.ne_empty, h.ne_dot⟩), if_neg h.ne_up, if_neg h.made,
    if_neg (Nat.not_lt.2 h.short)]
  simp only
  split <;> simp only [*]
  rfl

theorem Leads.descend_eq (h : Leads t reach n dir steps l) :
    descend t reach n dir steps = .ok l := by
  induction h with
  | done => exact descend_nil
  | skip hc _ ih => rw [descend_skip hc, ih]
  | up _ ih => rw [descend_up, ih]
  | last hc hlink =>
    rw [descend_named hc]
    split
    · exact if_pos rfl
    · exact descend_nil
    · exact if_pos rfl
    · next target he => exact if_pos ⟨rfl, hlink target he⟩
  | enter hc _ hd _ ih =>
    rw [descend_named hc, hd]
    exact ih
  | follow hc hend hd _ ih =>
    rw [descend_named hc, hd]
    simp only [ih]
    exact if_neg fun h => hend h.1 h.2

theorem leads_of_descend (h : descend t reach n dir steps = .ok l) :
    Leads t reach n dir steps l := by
  fun_induction descend t reach n dir steps with
  | case1 =>
    cases h
    exact .done
  | case2 _ _ _ _ hc ih => exact .skip hc (ih h)
  | case3 _ _ _ _ ih => exact .up (ih h)
  | case4 => cases h
  | case5 => cases h
  | case6 _ _ _ h1 h2 h4 _ ht h3 =>
    rw [← Except.ok.inj h]
    exact .last (.of_not h1 h2 h3 h4) fun _ he => nomatch ht.symm.trans he
  | case7 => cases h
  | case8 _ _ _ rest h1 h2 h3 h4 _ ht ih =>
    have hc : Named reach _ rest := (.of_not h1 h2 h3 h4)
    by_cases hr : rest = []
    · subst hr
      rw [descend_nil] at h
      rw [← Except.ok.inj h]
      exact .last hc fun _ he => nomatch ht.symm.trans he
    · exact .enter hc hr ht (ih h)
  | case9 _ _ _ h1 h2 h4 _ _ ht h3 =>
    rw [← Except.ok.inj h]
    exact .last (.of_not h1 h2 h3 h4) fun _ he => nomatch ht.symm.trans he
  | case10 => cases h
  | case11 _ _ _ _ h1 h2 h3 h4 _ _ ht hend =>
    rw [← Except.ok.inj h]
    obtain ⟨rfl, hr⟩ := hend
    exact .last (.of_not h1 h2 h3 h4) fun _ _ => hr
  | case12 => cases h
  | case13 _ _ _ h1 h2 h3 h4 _ _ ht hend _ ih =>
    exact .follow (.of_not h1 h2 h3 h4) (fun hr he => hend ⟨hr, he⟩) ht
      (ih h)

theorem leads_iff : Leads t reach n dir steps l ↔ descend t reach n dir steps = .ok l :=
  ⟨Leads.descend_eq, leads_of_descend⟩

theorem leads_skip_iff (h : c = "" ∨ c = ".") :
    Leads t reach n dir (c :: rest) l ↔ Leads t reach n dir rest l := by
  rw [leads_iff, leads_iff, descend_skip h]

theorem leads_up_iff :
    Leads t reach n dir (".." :: rest) l ↔ Leads t reach n dir.dropLast rest l := by
  rw [leads_iff, leads_iff, descend_up]

structure IsName (c : String) : Prop where
  ne_empty : c ≠ ""
  ne_dot : c ≠ "."
  ne_up : c ≠ ".."

theorem Named.isName (h : Named reach c rest) : IsName c := ⟨h.ne_empty, h.ne_dot, h.ne_up⟩

theorem Leads.of_name (h : Leads t reach n dir (c :: rest) l) (hc : IsName c) :
    (rest = [] ∧ l = dir ++ [c] ∧
      ∀ target, t.get? (dir ++ [c]) = some (.link target) → reach = .entry) ∨
    (rest ≠ [] ∧ t.get? (dir ++ [c]) = some .dir ∧ Leads t reach n (dir ++ [c]) rest l) ∨
    ∃ m target, n = m + 1 ∧ (rest = [] → reach ≠ .entry) ∧
      t.get? (dir ++ [c]) = some (.link target) ∧
      Leads t reach m (linkStart target dir) (linkSteps target ++ rest) l := by
  cases h with
  | skip h _ => exact (h.elim hc.ne_empty hc.ne_dot).elim
  | up _ => exact absurd rfl hc.ne_up
  | last _ hlink => exact .inl ⟨rfl, rfl, hlink⟩
  | enter _ hne hd h => exact .inr (.inl ⟨hne, hd, h⟩)
  | follow _ hend hd h => exact .inr (.inr ⟨_, _, rfl, hend, hd, h⟩)

end Descend

structure Grows (t t' : FileTree) : Prop where
  get? : ∀ {l e}, t.get? l = some e → t'.get? l = some e
  workDir : t'.workDir = t.workDir

namespace Grows

variable {t t₁ t' : FileTree}

theorem refl (t : FileTree) : t.Grows t := ⟨id, rfl⟩

theorem trans (h : t.Grows t₁) (h' : t₁.Grows t') : t.Grows t' :=
  ⟨fun he => h'.get? (h.get? he), h'.workDir.trans h.workDir⟩

theorem put {l : Location} (h : t.get? l = none) (e : Entry) : t.Grows (t.put l e) := by
  refine ⟨fun {l'} e' he => ?_, rfl⟩
  rwa [get?_put_of_ne]
  rintro rfl
  cases h.symm.trans he

end Grows

namespace Leads

variable {t t' a b k : FileTree} {reach : Reach} {n : Nat} {dir dir' l l' : Location} {c : String}
  {rest steps : List String}

theorem grows (h : Leads t reach n dir steps l) (hg : t.Grows t')
    (hend : reach = .entry ∨ (t.get? l).isSome) : Leads t' reach n dir steps l := by
  induction h with
  | done => exact .done
  | skip hc _ ih => exact .skip hc (ih hend)
  | up _ ih => exact .up (ih hend)
  | last hc hlink =>
    refine .last hc fun target he => hend.elim id fun hsome => ?_
    obtain ⟨e, hl⟩ := Option.isSome_iff_exists.1 hsome
    refine hlink target ?_
    rwa [hl, ← hg.get? hl]
  | enter hc hne hd _ ih => exact .enter hc hne (hg.get? hd) (ih hend)
  | follow hc hr hd _ ih => exact .follow hc hr (hg.get? hd) (ih hend)

/-- Two trees in which no place has two different entries lead to the same entry, and any tree with
what is in both of them leads there too. -/
theorem meet (ha : Leads a .entry n dir steps l) (hk : Leads k .entry n dir steps l')
    (h : ∀ x e e', a.get? x = some e → k.get? x = some e' → e' = e ∧ b.get? x = some e) :
    l' = l ∧ Leads b .entry n dir steps l := by
  induction ha with
  | done =>
    cases hk
    exact ⟨rfl, .done⟩
  | skip hc _ ih =>
    obtain ⟨he, hb⟩ := ih ((leads_skip_iff hc).1 hk)
    exact ⟨he, .skip hc hb⟩
  | up _ ih =>
    obtain ⟨he, hb⟩ := ih (leads_up_iff.1 hk)
    exact ⟨he, .up hb⟩
  | last hc _ =>
    refine ⟨?_, .last hc fun _ _ => rfl⟩
    rcases hk.of_name hc.isName with ⟨-, he, -⟩ | ⟨hne, -⟩ | ⟨_, _, -, hend, -⟩
    · exact he
    · exact absurd rfl hne
    · exact absurd rfl (hend rfl)
  | enter hc hne hd _ ih =>
    rcases hk.of_name hc.isName with ⟨hnil, -⟩ | ⟨-, hd', hk⟩ | ⟨_, _, -, -, hd', -⟩
    · exact absurd hnil hne
    · obtain ⟨he, hb⟩ := ih hk
      exact ⟨he, .enter hc hne (h _ _ _ hd hd').2 hb⟩
    · cases (h _ _ _ hd hd').1
  | follow hc hend hd _ ih =>
    rcases hk.of_name hc.isName with ⟨hnil, -⟩ | ⟨-, hd', -⟩ | ⟨_, _, hn, -, hd', hk⟩
    · exact absurd rfl (hend hnil)
    · cases (h _ _ _ hd hd').1
    · cases hn
      obtain ⟨he, hd⟩ := h _ _ _ hd hd'
      cases he
      obtain ⟨he, hb⟩ := ih hk
      exact ⟨he, .follow hc hend hd hb⟩

theorem through (h : Leads t .entry n dir steps l) (hl : t.get? l = some .dir) :
    ∃ m, ∀ reach rel x, Leads t reach n dir (steps ++ rel) x → Leads t reach m l rel x := by
  induction h with
  | done => exact ⟨_, fun _ _ _ hx => hx⟩
  | skip hc _ ih =>
    obtain ⟨m, hm⟩ := ih hl
    exact ⟨m, fun reach rel x hx => hm _ _ _ ((leads_skip_iff hc).1 hx)⟩
  | up _ ih =>
    obtain ⟨m, hm⟩ := ih hl
    exact ⟨m, fun reach rel x hx => hm _ _ _ (leads_up_iff.1 hx)⟩
  | @last n _ _ hc _ =>
    refine ⟨n, fun reach rel x hx => ?_⟩
    rcases hx.of_name hc.isName with ⟨hnil, rfl, -⟩ | ⟨-, -, hx⟩ | ⟨_, _, -, -, hd, -⟩
    · cases rel with
      | nil => exact .done
      | cons _ _ => cases hnil
    · exact hx
    · cases hl.symm.trans hd
  | enter hc hne hd _ ih =>
    obtain ⟨m, hm⟩ := ih hl
    refine ⟨m, fun reach rel x hx => hm _ _ _ ?_⟩
    rcases hx.of_name hc.isName with ⟨hnil, -⟩ | ⟨-, -, hx⟩ | ⟨_, _, -, -, hd', -⟩
    · exact absurd (List.append_eq_nil_iff.1 hnil).1 hne
    · exact hx
    · cases hd.symm.trans hd'
  | follow hc hend hd _ ih =>
    obtain ⟨m, hm⟩ := ih hl
    refine ⟨m, fun reach rel x hx => hm _ _ _ ?_⟩
    rcases hx.of_name hc.isName with ⟨hnil, -⟩ | ⟨-, hd', -⟩ | ⟨_, _, hn, -, hd', hx⟩
    · exact absurd rfl (hend (List.append_eq_nil_iff.1 hnil).1)
    · cases hd.symm.trans hd'
    · cases hn
      cases hd.symm.trans hd'
      rwa [List.append_assoc]

theorem down (h : Leads t reach n dir (steps ++ rest) l) (hrest : rest ≠ [])
    (hnames : ∀ c ∈ steps, IsName c)
    (hlinks : ∀ q, q ≠ [] → q <+: steps → ∀ s, t.get? (dir ++ q) ≠ some (.link s)) :
    Leads t reach n (dir ++ steps) rest l ∧
      ∀ q, q ≠ [] → q <+: steps → t.get? (dir ++ q) = some .dir := by
  induction steps generalizing dir with
  | nil =>
    rw [List.append_nil]
    exact ⟨h, fun q hne hq => absurd (List.prefix_nil.1 hq) hne⟩
  | cons c steps ih =>
    have hcons (q : List String) : dir ++ c :: q = dir ++ [c] ++ q := List.append_cons _ _ _
    obtain ⟨hc, hnames⟩ := List.forall_mem_cons.1 hnames
    rcases h.of_name hc with ⟨hnil, -⟩ | ⟨-, hd, h⟩ | ⟨_, s, -, -, hd, -⟩
    · exact absurd (List.append_eq_nil_iff.1 hnil).2 hrest
    · obtain ⟨h, hdirs⟩ := ih h hnames fun q hne hq s => by
        rw [← hcons]
        exact hlinks (c :: q) (List.cons_ne_nil _ _) (List.cons_prefix_cons.2 ⟨rfl, hq⟩) s
      refine ⟨by rwa [hcons], fun q hne hq => ?_⟩
      cases q with
      | nil => exact absurd rfl hne
      | cons c' q =>
        obtain ⟨rfl, hq'⟩ := List.cons_prefix_cons.1 hq
        by_cases hnil : q = []
        · rw [hnil]
          exact hd
        · rw [hcons]
          exact hdirs q hnil hq'
    · exact absurd hd (hlinks [c] (List.cons_ne_nil _ _)
        (List.cons_prefix_cons.2 ⟨rfl, List.nil_prefix⟩) s)

/-- Where a way ends whose last name is no link to be followed. -/
theorem ends (h : Leads t reach n dir (steps ++ [c]) l) (hnames : ∀ c' ∈ steps ++ [c], IsName c')
    (hlinks : ∀ q, q ≠ [] → q <+: steps → ∀ s, t.get? (dir ++ q) ≠ some (.link s))
    (hend : reach ≠ .entry → ∀ s, t.get? (dir ++ (steps ++ [c])) ≠ some (.link s)) :
    l = dir ++ (steps ++ [c]) ∧ ∀ q, q ≠ [] → q <+: steps → t.get? (dir ++ q) = some .dir := by
  rw [List.forall_mem_append] at hnames
  obtain ⟨h, hdirs⟩ := h.down (List.cons_ne_nil _ _) hnames.1 hlinks
  refine ⟨?_, hdirs⟩
  rw [← List.append_assoc] at hend ⊢
  rcases h.of_name (hnames.2 c List.mem_cons_self) with ⟨-, he, -⟩ | ⟨hne, -⟩ | ⟨_, s, -, hr, hd, -⟩
  · exact he
  · exact absurd rfl hne
  · exact absurd hd (hend (hr rfl) s)

end Leads

/-- Whether what is there stands in directories, and the tree is seen from one. -/
structure WellFormed (t : FileTree) : Prop where
  above : ∀ {l c}, (t.get? (l ++ [c])).isSome → t.get? l = some .dir
  workDir : t.get? t.workDir = some .dir

theorem get?_nil (t : FileTree) : t.get? [] = some .dir := by simp [get?]

theorem wellFormed_of_entries {t : FileTree}
    (h : ∀ x ∈ t.entries, t.get? x.1.dropLast = some .dir) (hw : t.get? t.workDir = some .dir) :
    t.WellFormed := by
  refine ⟨fun {l c} hsome => ?_, hw⟩
  obtain ⟨e, he⟩ := Option.isSome_iff_exists.1 hsome
  unfold get? at he
  rw [if_neg (by simp)] at he
  obtain ⟨_, _, heq, -⟩ := List.lookup_eq_some_iff.1 he
  have hmem : (l ++ [c], e) ∈ t.entries := by
    rw [heq]
    simp
  have hdir := h _ hmem
  rwa [List.dropLast_concat] at hdir

namespace WellFormed

variable {t : FileTree} {reach : Reach} {n : Nat} {dir l l' : Location} {steps : List String}

theorem dropLast (h : t.WellFormed) (hl : (t.get? l).isSome) : t.get? l.dropLast = some .dir := by
  rcases List.eq_nil_or_concat l with rfl | ⟨l, c, rfl⟩
  · exact get?_nil t
  · rw [List.concat_eq_append] at hl ⊢
    rw [List.dropLast_concat]
    exact h.above hl

/-- There is nothing below what is no directory. -/
theorem eq_none_of_below (h : t.WellFormed) (hl : t.get? l ≠ some .dir) (hp : l <+: l')
    (hne : l' ≠ l) : t.get? l' = none := by
  obtain ⟨r, rfl⟩ := hp
  induction r generalizing l with
  | nil => exact absurd (List.append_nil l) hne
  | cons c r ih =>
    have hc : t.get? (l ++ [c]) = none :=
      Option.not_isSome_iff_eq_none.1 fun hsome => hl (h.above hsome)
    rw [List.append_cons]
    by_cases hr : r = []
    · rwa [hr, List.append_nil]
    · exact ih (by simp [hc]) (by simp [hr])

/-- What a way leads to, whether it is there or not, stands in a directory. -/
theorem dropLast_of_leads (h : t.WellFormed) (hl : Leads t reach n dir steps l)
    (hdir : t.get? dir = some .dir) : t.get? l.dropLast = some .dir := by
  induction hl with
  | done => exact h.dropLast (by rw [hdir]; rfl)
  | skip _ _ ih => exact ih hdir
  | up _ ih => exact ih (h.dropLast (by rw [hdir]; rfl))
  | last _ _ => rwa [List.dropLast_concat]
  | enter _ _ hd _ ih => exact ih hd
  | follow _ _ _ _ ih =>
    refine ih ?_
    unfold linkStart
    split
    · exact get?_nil t
    · exact hdir

end WellFormed

section Resolve

variable {t t' a b k : FileTree} {reach : Reach} {p q : Path} {l l' : Location} {e : Entry}

def start (t : FileTree) (p : Path) : Location := if p.isAbsolute then [] else t.workDir

theorem start_of_workDir (h : t'.workDir = t.workDir) (p : Path) : t'.start p = t.start p := by
  rw [start, h, start]

theorem start_of_root (h : p.root = q.root) (t : FileTree) : t.start p = t.start q := by
  rw [start, Path.isAbsolute, h, start, Path.isAbsolute]

theorem resolve_eq_ok_iff : t.resolve reach p = .ok l ↔
    p.text.utf8ByteSize ≤ longestPath ∧ Leads t reach mostLinks (t.start p) p.parts l := by
  rw [leads_iff, resolve, start]
  split
  · next h => exact iff_of_false nofun fun h' => Nat.not_lt.2 h'.1 h
  · next h => exact ⟨fun hl => ⟨Nat.not_lt.1 h, hl⟩, And.right⟩

theorem Grows.resolve (hg : t.Grows t') (h : t.resolve reach p = .ok l)
    (hend : reach = .entry ∨ (t.get? l).isSome) : t'.resolve reach p = .ok l := by
  obtain ⟨hlen, hl⟩ := resolve_eq_ok_iff.1 h
  refine resolve_eq_ok_iff.2 ⟨hlen, ?_⟩
  rw [start_of_workDir hg.workDir]
  exact hl.grows hg hend

theorem status?_eq_some_iff :
    t.status? p = some e ↔ ∃ l, t.resolve .target p = .ok l ∧ t.get? l = some e := by
  unfold status?
  cases t.resolve .target p with
  | ok l => simp
  | error e => simp

theorem Grows.status? (hg : t.Grows t') (h : t.status? p = some e) : t'.status? p = some e := by
  obtain ⟨l, hl, he⟩ := status?_eq_some_iff.1 h
  exact status?_eq_some_iff.2 ⟨l, hg.resolve hl (.inr (by rw [he]; rfl)), hg.get? he⟩

theorem resolve_meet (ha : a.resolve .entry p = .ok l) (hk : k.resolve .entry p = .ok l')
    (hak : k.workDir = a.workDir) (hab : b.workDir = a.workDir)
    (h : ∀ x e e', a.get? x = some e → k.get? x = some e' → e' = e ∧ b.get? x = some e) :
    l' = l ∧ b.resolve .entry p = .ok l := by
  obtain ⟨hlen, hla⟩ := resolve_eq_ok_iff.1 ha
  have hlk := (resolve_eq_ok_iff.1 hk).2
  rw [start_of_workDir hak] at hlk
  obtain ⟨he, hlb⟩ := hla.meet hlk h
  rw [← start_of_workDir hab] at hlb
  exact ⟨he, resolve_eq_ok_iff.2 ⟨hlen, hlb⟩⟩

theorem WellFormed.dropLast_of_resolve (h : t.WellFormed) (hl : t.resolve reach p = .ok l) :
    t.get? l.dropLast = some .dir := by
  refine h.dropLast_of_leads (resolve_eq_ok_iff.1 hl).2 ?_
  unfold start
  split
  · exact get?_nil t
  · exact h.workDir

end Resolve

end BundleWright.FileTree
