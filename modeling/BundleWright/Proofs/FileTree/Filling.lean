import BundleWright.Proofs.Containment
import BundleWright.Proofs.FileTree.Operations
/-!
How an empty directory is filled. Main statements: what is copied and linked to places inside of a
directory leaves everything outside as it was, as long as no link lies below another; and when no
place lies above another, the directory holds what was put at the places and what leads to them.
-/
namespace BundleWright

open BundleWright.Path

theorem Path.isName_of_mem {p : Path} {c : String} (h : c ∈ p.parts) (hup : c ≠ "..") :
    FileTree.IsName c := by
  obtain ⟨hne, hdot, _⟩ := p.proper c h
  refine ⟨?_, ?_, hup⟩
  · rintro rfl
    exact hne rfl
  · rintro rfl
    exact hdot rfl

theorem Path.Inside.exists_concat {dir p : Path} (h : Inside dir p) :
    ∃ init c, ".." ∉ init ++ [c] ∧ p.root = dir.root ∧ p.parts = dir.parts ++ (init ++ [c]) := by
  obtain ⟨r, hne, hup, hroot, hparts⟩ := h
  rcases List.eq_nil_or_concat r with rfl | ⟨init, c, rfl⟩
  · exact absurd rfl hne
  · rw [List.concat_eq_append] at hup hparts
    exact ⟨init, c, hup, hroot, hparts⟩

instance (p q : Path) : Decidable (Apart p q) := inferInstanceAs (Decidable (_ ∧ _ ∧ _))

theorem not_concat_begins {init : List String} {c : String} : ¬init ++ [c] <+: init := by
  intro h
  have hlen := h.length_le
  rw [List.length_append, List.length_singleton] at hlen
  omega

theorem Path.not_prefix_of_apart {p q : Path} (hroot : p.root = q.root) (h : Apart q p) :
    ¬p.parts <+: q.parts :=
  fun hp => h.2.2 ⟨hroot, hp, h.1.symm⟩

namespace FileTree

variable {t t' t₀ k : FileTree} {dir p : Path} {D l : Location} {rel init : List String}
  {c : String} {reach : Reach}

structure Home (t : FileTree) (dir : Path) (D : Location) : Prop where
  leads : t.resolve .entry dir = .ok D
  isDir : t.get? D = some .dir

theorem Home.grows (h : t.Home dir D) (hg : t.Grows t') : t'.Home dir D :=
  ⟨hg.resolve h.leads (.inl rfl), hg.get? h.isDir⟩

theorem Home.exists_leads (h : t.Home dir D) (hroot : p.root = dir.root)
    (hparts : p.parts = dir.parts ++ rel) (hl : t.resolve reach p = .ok l) :
    ∃ m, Leads t reach m D rel l := by
  obtain ⟨m, hm⟩ := (resolve_eq_ok_iff.1 h.leads).2.through h.isDir
  have hl := (resolve_eq_ok_iff.1 hl).2
  rw [start_of_root hroot, hparts] at hl
  exact ⟨m, hm _ _ _ hl⟩

def Free (t : FileTree) (D : Location) (rel : List String) : Prop :=
  ∀ q, q ≠ [] → q <+: rel → ∀ s, t.get? (D ++ q) ≠ some (.link s)

theorem Free.mono (h : t.Free D rel) (hp : init <+: rel) : t.Free D init :=
  fun q hne hq => h q hne (hq.trans hp)

theorem Free.added {new : Location → Prop} (h : t.Free D rel) (hadded : Added new t t') :
    t'.Free D rel := by
  intro q hne hq s hs
  cases ht : t.get? (D ++ q) with
  | none => cases (hadded.dir ht hs).1
  | some e =>
    have he := (hadded.grows.get? ht).symm.trans hs
    exact h q hne hq s (ht.trans he)

def OnWay (D : Location) (rel : List String) (x : Location) : Prop :=
  ∃ q, q ≠ [] ∧ q <+: rel ∧ x = D ++ q

theorem isName_of_inside (hparts : p.parts = dir.parts ++ rel) (hup : ".." ∉ rel) :
    ∀ c ∈ rel, IsName c := by
  intro c hc
  have hmem : c ∈ p.parts := by
    rw [hparts]
    exact List.mem_append_right _ hc
  refine isName_of_mem hmem ?_
  rintro rfl
  exact hup hc

section Ending

variable (hhome : t.Home dir D) (hroot : p.root = dir.root)
  (hparts : p.parts = dir.parts ++ (init ++ [c])) (hup : ".." ∉ init ++ [c])

include hhome hroot hparts hup

theorem ends_of_resolve (hl : t.resolve reach p = .ok l) (hfree : t.Free D init)
    (hend : reach ≠ .entry → ∀ s, t.get? (D ++ (init ++ [c])) ≠ some (.link s)) :
    l = D ++ (init ++ [c]) ∧ ∀ q, q ≠ [] → q <+: init → t.get? (D ++ q) = some .dir := by
  obtain ⟨m, hl⟩ := hhome.exists_leads hroot hparts hl
  exact hl.ends (isName_of_inside hparts hup) hfree hend

end Ending

/-- Only directories inside are made for a path that is inside. -/
theorem added_of_makeDirs (hhome : t.Home dir D) (hroot : p.root = dir.root)
    (hparts : p.parts = dir.parts ++ rel) (hup : ".." ∉ rel) (hfree : t.Free D rel)
    (h : effect (makeDirs true p) t = (.ok (), t')) : Added (OnWay D rel) t t' := by
  -- the path of the directory itself needs no making, so only names below it are gone through
  induction p using Path.parent_induction generalizing rel t' with
  | h p ih =>
    have hself {k : FileTree} (hk : k.Home dir D) (hfree : k.Free D rel)
        (hready : Readies k true p (.ok ()) t') : Added (OnWay D rel) k t' := by
      cases hready with
      | kept _ => exact .refl _
      | made hl hnone =>
        rcases List.eq_nil_or_concat rel with rfl | ⟨init, c, rfl⟩
        · rw [List.append_nil] at hparts
          obtain rfl : p = dir := ext_iff'.2 ⟨hroot, hparts⟩
          cases hk.leads.symm.trans hl
          cases hk.isDir.symm.trans hnone
        · rw [List.concat_eq_append] at hparts hup hfree ⊢
          obtain ⟨rfl, -⟩ := ends_of_resolve hk hroot hparts hup hl
            (hfree.mono (List.prefix_append _ _)) fun hne => absurd rfl hne
          exact .put hnone ⟨_, by simp, List.prefix_refl _, rfl⟩
    rcases exists_of_makeDirs h with hready | ⟨hno, hne, k, hk, hready⟩
    · exact hself hhome hfree hready
    · rcases List.eq_nil_or_concat rel with rfl | ⟨init, c, rfl⟩
      · rw [List.append_nil] at hparts
        obtain rfl : p = dir := ext_iff'.2 ⟨hroot, hparts⟩
        cases hhome.leads.symm.trans hno
      · have hinit : init <+: init.concat c := by
          rw [List.concat_eq_append]
          exact List.prefix_append _ _
        have hadded : Added (OnWay D init) t k := by
          refine ih hne hroot ?_ (fun hm => hup (hinit.subset hm)) (hfree.mono hinit) hk
          rw [parent_parts, hparts, List.concat_eq_append, ← List.append_assoc,
            List.dropLast_concat]
        have hlast := hself (hhome.grows hadded.grows) (hfree.added hadded) hready
        refine .trans (hadded.mono ?_) hlast
        rintro x ⟨q, hq, hpre, rfl⟩
        exact ⟨q, hq, hpre.trans hinit, rfl⟩

section Steps

variable {source dest link : Path} {target : String}

/-- What a copy to a path inside of a directory does: it makes directories on the way and writes a
file there, or in the directory that is there. -/
theorem exists_of_place (hhome : t.Home dir D) (hroot : dest.root = dir.root)
    (hparts : dest.parts = dir.parts ++ (init ++ [c])) (hup : ".." ∉ init ++ [c])
    (hfree : ∀ rel, t.Free D rel)
    (h : effect (makeDirs true dest.parent >>= fun _ => copyFile source dest) t = (.ok (), t')) :
    ∃ k r text, Added (OnWay D init) t k ∧ k.status? source = some (.file text) ∧ r ≠ [] ∧
      (r = init ++ [c] ∨ k.get? (D ++ (init ++ [c])) = some .dir) ∧
      (∀ q, q ≠ [] → q <+: init → k.get? (D ++ q) = some .dir) ∧
      t' = k.put (D ++ r) (.file text) := by
  obtain ⟨_, k, hk, hcopy⟩ := exists_of_effect_bind h
  have hparent : dest.parent.parts = dir.parts ++ init := by
    rw [parent_parts, hparts, ← List.append_assoc, List.dropLast_concat]
  have hadded : Added (OnWay D init) t k :=
    added_of_makeDirs hhome ((parent_root dest).trans hroot) hparent
      (fun hm => hup (List.mem_append_left _ hm)) (hfree init) hk
  replace hhome := hhome.grows hadded.grows
  replace hfree : ∀ rel, k.Free D rel := fun rel => (hfree rel).added hadded
  have hlink (q : List String) (hq : q ≠ []) (s : String) : k.get? (D ++ q) ≠ some (.link s) :=
    hfree q q hq (List.prefix_refl q) s
  obtain ⟨text, l, hsource, hl, hne, rfl⟩ := exists_of_copyFile hcopy
  rcases copyDest_cases k source dest with he | ⟨hdir, w, hw, hroot', hparts'⟩
  · rw [he] at hl
    obtain ⟨rfl, hdirs⟩ := ends_of_resolve hhome hroot hparts hup hl (hfree init)
      fun _ => hlink _ (by simp)
    exact ⟨k, _, text, hadded, hsource, by simp, .inl rfl, hdirs, rfl⟩
  · obtain ⟨y, hy, hydir⟩ := status?_eq_some_iff.1 hdir
    obtain ⟨rfl, hdirs⟩ := ends_of_resolve hhome hroot hparts hup hy (hfree init)
      fun _ => hlink _ (by simp)
    replace hroot' := hroot'.trans hroot
    rw [hparts, List.append_assoc] at hparts'
    by_cases hw : w = ".."
    · -- the way back up ends at a directory, where no file is written
      subst hw
      obtain ⟨m, hl⟩ := hhome.exists_leads hroot' hparts' hl
      obtain ⟨hl, -⟩ := hl.down (List.cons_ne_nil _ _) (isName_of_inside hparts hup) (hfree _)
      rw [leads_up_iff, ← List.append_assoc, List.dropLast_concat] at hl
      cases hl
      refine absurd ?_ hne
      by_cases hinit : init = []
      · rw [hinit, List.append_nil]
        exact hhome.isDir
      · exact hdirs init hinit (List.prefix_refl _)
    · have hup' : ".." ∉ init ++ [c] ++ [w] := by
        rw [List.mem_append, List.mem_singleton, not_or]
        exact ⟨hup, Ne.symm hw⟩
      obtain ⟨rfl, -⟩ := ends_of_resolve hhome hroot' hparts' hup' hl (hfree _)
        fun _ => hlink _ (by simp)
      exact ⟨k, _, text, hadded, hsource, by simp, .inr hydir, hdirs, rfl⟩

/-- What a link at a path inside of a directory does, if no link lies above it there. -/
theorem exists_of_link (hhome : t.Home dir D) (hroot : link.root = dir.root)
    (hparts : link.parts = dir.parts ++ (init ++ [c])) (hup : ".." ∉ init ++ [c])
    (hfree : t.Free D init) (h : effect (makeLink target link) t = (.ok (), t')) :
    t.get? (D ++ (init ++ [c])) = none ∧
      (∀ q, q ≠ [] → q <+: init → t.get? (D ++ q) = some .dir) ∧
      t' = t.put (D ++ (init ++ [c])) (.link target) := by
  obtain ⟨l, hl, hnone, rfl⟩ := exists_of_makeLink h
  obtain ⟨rfl, hdirs⟩ := ends_of_resolve hhome hroot hparts hup hl hfree fun hne => absurd rfl hne
  exact ⟨hnone, hdirs, rfl⟩

end Steps

structure Fresh (t : FileTree) (dir : Path) (D : Location) : Prop extends t.Home dir D where
  empty : ∀ r, r ≠ [] → t.get? (D ++ r) = none

/-- Whether nothing but what is below a place is different. -/
structure Within (t₀ : FileTree) (D : Location) (t : FileTree) : Prop where
  outside : ∀ l, (∀ r, r ≠ [] → l ≠ D ++ r) → t.get? l = t₀.get? l
  workDir : t.workDir = t₀.workDir

/-- Whether, besides, the only links below are among those given. -/
structure Kept (t₀ : FileTree) (dir : Path) (D : Location) (links : List FileLink)
    (t : FileTree) : Prop extends t₀.Within D t where
  links : ∀ r s, r ≠ [] → t.get? (D ++ r) = some (.link s) →
    ∃ x ∈ links, x.link.parts = dir.parts ++ r

/-- Whether, besides, all links below ask for something beside them. -/
structure Beside (t₀ : FileTree) (D : Location) (t : FileTree) : Prop extends t₀.Within D t where
  plain : ∀ r s, r ≠ [] → t.get? (D ++ r) = some (.link s) → isPlainName s = true

section Kept

variable {links : List FileLink} {c : FileCopy} {x : FileLink}

theorem Fresh.kept (h : t.Fresh dir D) : t.Kept dir D [] t :=
  ⟨⟨fun _ _ => rfl, rfl⟩, fun r _ hr he => nomatch (h.empty r hr).symm.trans he⟩

theorem Within.grows (h : t₀.Within D t) (h₀ : t₀.Fresh dir D) : t₀.Grows t := by
  refine ⟨fun {l e} he => ?_, h.workDir⟩
  rw [h.outside l, he]
  rintro r hr rfl
  cases (h₀.empty r hr).symm.trans he

theorem Within.home (h : t₀.Within D t) (h₀ : t₀.Fresh dir D) : t.Home dir D :=
  h₀.toHome.grows (h.grows h₀)

theorem Within.put (h : t₀.Within D t) {r : List String} (hr : r ≠ []) (e : Entry) :
    t₀.Within D (t.put (D ++ r) e) :=
  ⟨fun l hl => by rw [get?_put_of_ne _ _ (hl r hr).symm, h.outside l hl], h.workDir⟩

theorem Within.added (h : t₀.Within D t) (hadded : Added (OnWay D rel) t t') :
    t₀.Within D t' := by
  refine ⟨fun l hl => ?_, hadded.grows.workDir.trans h.workDir⟩
  rw [hadded.get?_of_not, h.outside l hl]
  rintro ⟨q, hq, -, rfl⟩
  exact hl q hq rfl

theorem Kept.free (h : t₀.Kept dir D [] t) (rel : List String) : t.Free D rel :=
  fun q hq _ s hs => nomatch h.links q s hq hs

theorem Kept.place (h : t₀.Kept dir D [] t) (h₀ : t₀.Fresh dir D) (hin : Inside dir c.dest)
    (hc : effect (makeDirs true c.dest.parent >>= fun _ => copyFile c.source c.dest) t =
      (.ok (), t')) : t₀.Kept dir D [] t' := by
  obtain ⟨init, last, hup, hroot, hparts⟩ := hin.exists_concat
  obtain ⟨k, r, text, hadded, -, hr, -, -, rfl⟩ :=
    exists_of_place (h.home h₀) hroot hparts hup h.free hc
  refine ⟨(h.toWithin.added hadded).put hr _, fun q s hq hs => ?_⟩
  by_cases he : D ++ r = D ++ q
  · rw [← he, get?_put_self _ _ (by simp [hr])] at hs
    cases hs
  · rw [get?_put_of_ne _ _ he] at hs
    exact absurd hs ((h.free q).added hadded q hq (List.prefix_refl q) s)

theorem Kept.free_of_not_above (h : t₀.Kept dir D links t) (hin : ∀ y ∈ links, Inside dir y.link)
    (hroot : p.root = dir.root) {last : String} (hparts : p.parts = dir.parts ++ (init ++ [last]))
    (habove : ∀ y ∈ links, ¬Above y.link p) : t.Free D init := by
  intro q hq hpre s hs
  obtain ⟨y, hy, hyparts⟩ := h.links q s hq hs
  obtain ⟨_, _, _, hyroot, _⟩ := hin y hy
  refine habove y hy ⟨hyroot.trans hroot.symm, ?_, ?_⟩
  · rw [hyparts, hparts, List.prefix_append_right_inj]
    exact hpre.trans (List.prefix_append _ _)
  · rintro rfl
    rw [hyparts, List.append_cancel_left_eq] at hparts
    exact not_concat_begins (hparts ▸ hpre)

theorem Kept.link (h : t₀.Kept dir D links t) (h₀ : t₀.Fresh dir D)
    (hins : ∀ y ∈ links, Inside dir y.link) (hin : Inside dir x.link)
    (habove : ∀ y ∈ links, ¬Above y.link x.link)
    (hx : effect (makeLink x.target x.link) t = (.ok (), t')) :
    t₀.Kept dir D (links ++ [x]) t' := by
  obtain ⟨init, last, hup, hroot, hparts⟩ := hin.exists_concat
  obtain ⟨hnone, -, rfl⟩ := exists_of_link (h.home h₀) hroot hparts hup
    (h.free_of_not_above hins hroot hparts habove) hx
  refine ⟨h.toWithin.put (by simp) _, fun q s hq hs => ?_⟩
  by_cases he : D ++ (init ++ [last]) = D ++ q
  · rw [List.append_cancel_left_eq] at he
    exact ⟨x, by simp, by rw [hparts, he]⟩
  · rw [get?_put_of_ne _ _ he] at hs
    obtain ⟨y, hy, hyparts⟩ := h.links q s hq hs
    exact ⟨y, List.mem_append_left _ hy, hyparts⟩

/-- A way through links that ask for something beside them does not lead up. -/
theorem exists_of_leads_plain {n : Nat} {dir : Location} {steps r : List String}
    (h : Leads t reach n dir steps l) (hdir : dir = D ++ r) (hnames : ∀ c ∈ steps, IsName c)
    (hplain : ∀ q s, q ≠ [] → t.get? (D ++ q) = some (.link s) → isPlainName s = true) :
    ∃ q, l = D ++ q ∧ (r ≠ [] ∨ steps ≠ [] → q ≠ []) := by
  induction h generalizing r with
  | done => exact ⟨r, hdir, fun h => h.resolve_right fun h => h rfl⟩
  | @skip _ _ _ c _ hc _ _ =>
    have hname := hnames c List.mem_cons_self
    exact (hc.elim hname.ne_empty hname.ne_dot).elim
  | up _ _ => exact absurd rfl (hnames ".." List.mem_cons_self).ne_up
  | @last _ _ c _ _ => exact ⟨r ++ [c], by rw [hdir, List.append_assoc], fun _ => by simp⟩
  | @enter _ _ _ c rest _ hne _ _ ih =>
    obtain ⟨q, hq, hnil⟩ := ih (r := r ++ [c]) (by rw [hdir, List.append_assoc])
      fun c' hc' => hnames c' (List.mem_cons_of_mem c hc')
    exact ⟨q, hq, fun _ => hnil (.inl (by simp))⟩
  | @follow _ _ _ c target rest _ _ hd _ ih =>
    rw [hdir, List.append_assoc] at hd
    have hp := hplain _ _ (by simp) hd
    have hc := isComponent_of_isPlainName hp
    have hsteps : linkSteps target = [target] := by
      unfold linkSteps
      rw [Text.splitOn_of_not_mem hc.not_mem]
      simp
    have hstart (dir : Location) : linkStart target dir = dir := by
      unfold linkStart
      rw [ofString_component hc]
      rfl
    obtain ⟨q, hq, hnil⟩ := ih (r := r) (by rw [hstart, hdir]) fun c' hc' => by
      rw [hsteps] at hc'
      rcases List.mem_cons.1 hc' with rfl | hc'
      · simp only [isPlainName, Bool.and_eq_true, bne_iff_ne] at hp
        exact ⟨hp.1.1.1, hp.1.2, hp.2⟩
      · exact hnames c' (List.mem_cons_of_mem c hc')
    exact ⟨q, hq, fun _ => hnil (.inr (by rw [hsteps]; exact List.cons_ne_nil _ _))⟩

theorem Kept.beside (h : t₀.Kept dir D [] t) : t₀.Beside D t :=
  ⟨h.toWithin, fun r s hr hs => absurd hs (h.free r r hr (List.prefix_refl r) s)⟩

theorem Beside.link (h : t₀.Beside D t) (h₀ : t₀.Fresh dir D) (hin : Inside dir x.link)
    (hplain : isPlainName x.target = true)
    (hx : effect (makeLink x.target x.link) t = (.ok (), t')) : t₀.Beside D t' := by
  obtain ⟨rel, hne, hup, hroot, hparts⟩ := hin
  obtain ⟨l, hl, -, rfl⟩ := exists_of_makeLink hx
  obtain ⟨m, hl⟩ := (h.home h₀).exists_leads hroot hparts hl
  obtain ⟨q, rfl, hq⟩ := exists_of_leads_plain hl (List.append_nil D).symm
    (isName_of_inside hparts hup) h.plain
  refine ⟨h.toWithin.put (hq (.inr hne)) _, fun r s hr hs => ?_⟩
  by_cases he : D ++ q = D ++ r
  · rw [he, get?_put_self _ _ (by simp [hr])] at hs
    cases hs
    exact hplain
  · rw [get?_put_of_ne _ _ he] at hs
    exact h.plain r s hr hs

end Kept

/-- Whether the directories on the way to some places are there, and all else stands at them. -/
structure Paved (dir : Path) (D : Location) (places : List Path) (t : FileTree) : Prop where
  above : ∀ p ∈ places, ∀ r, r ≠ [] → dir.parts ++ r <+: p.parts → dir.parts ++ r ≠ p.parts →
    t.get? (D ++ r) = some .dir
  only : ∀ r, r ≠ [] → (t.get? (D ++ r)).isSome → ∃ p ∈ places, dir.parts ++ r <+: p.parts

/-- Whether what is inside of a directory are copies of what sources lead to, links, and the
directories on the way to them. -/
structure Filled (dir : Path) (D : Location) (copies : List FileCopy) (links : List FileLink)
    (t : FileTree) : Prop extends Paved dir D (Work.stage copies links).places t where
  copied : ∀ c ∈ copies, ∀ r, c.dest.parts = dir.parts ++ r →
    ∃ text, t.status? c.source = some (.file text) ∧ t.get? (D ++ r) = some (.file text)
  linked : ∀ x ∈ links, ∀ r, x.link.parts = dir.parts ++ r →
    t.get? (D ++ r) = some (.link x.target)

section Filled

variable {places places' : List Path} {e : Entry} {copies : List FileCopy}
  {links : List FileLink} {c : FileCopy} {x : FileLink} {last : String}

theorem Paved.get?_eq_none (h : Paved dir D places t) (hadded : Added (OnWay D init) t k)
    (hparts : p.parts = dir.parts ++ (init ++ [last]))
    (hapart : ∀ q ∈ places, ¬p.parts <+: q.parts) :
    k.get? (D ++ (init ++ [last])) = none := by
  rw [hadded.get?_of_not]
  · refine Option.not_isSome_iff_eq_none.1 fun hsome => ?_
    obtain ⟨q, hq, hpre⟩ := h.only _ (by simp) hsome
    exact hapart q hq (hparts ▸ hpre)
  · rintro ⟨q, -, hpre, he⟩
    rw [List.append_cancel_left_eq] at he
    exact not_concat_begins (he ▸ hpre)

theorem Paved.put (h : Paved dir D places t) (hadded : Added (OnWay D init) t k)
    (hdirs : ∀ q, q ≠ [] → q <+: init → k.get? (D ++ q) = some .dir)
    (hparts : p.parts = dir.parts ++ (init ++ [last]))
    (hnone : k.get? (D ++ (init ++ [last])) = none)
    (hplaces : ∀ q, q ∈ places' ↔ q ∈ places ∨ q = p) :
    Paved dir D places' (k.put (D ++ (init ++ [last])) e) := by
  have hg : k.Grows (k.put (D ++ (init ++ [last])) e) := .put hnone e
  constructor
  · intro q hq r hr hpre hne
    rcases (hplaces q).1 hq with hq | rfl
    · exact hg.get? (hadded.grows.get? (h.above q hq r hr hpre hne))
    · rw [hparts, List.prefix_append_right_inj, List.prefix_concat_iff] at hpre
      rw [hparts, ne_eq, List.append_cancel_left_eq] at hne
      exact hg.get? (hdirs r hr (hpre.resolve_left hne))
  · intro r hr hsome
    have hself (hpre : r <+: init ++ [last]) : ∃ q ∈ places', dir.parts ++ r <+: q.parts :=
      ⟨p, (hplaces p).2 (.inr rfl), by rwa [hparts, List.prefix_append_right_inj]⟩
    by_cases he : D ++ (init ++ [last]) = D ++ r
    · rw [List.append_cancel_left_eq] at he
      exact hself (he ▸ List.prefix_refl _)
    · rw [get?_put_of_ne _ _ he] at hsome
      by_cases hway : OnWay D init (D ++ r)
      · obtain ⟨q, -, hpre, hq⟩ := hway
        rw [List.append_cancel_left_eq] at hq
        exact hself (hq ▸ hpre.trans (List.prefix_append _ _))
      · rw [hadded.get?_of_not hway] at hsome
        obtain ⟨q, hq, hpre⟩ := h.only r hr hsome
        exact ⟨q, (hplaces q).2 (.inl hq), hpre⟩

theorem Fresh.filled (h : t.Fresh dir D) : Filled dir D [] [] t where
  above := nofun
  only := fun r hr hsome => by rw [h.empty r hr] at hsome; cases hsome
  copied := nofun
  linked := nofun

theorem Filled.place (h : Filled dir D copies [] t) (hk : t₀.Kept dir D [] t)
    (h₀ : t₀.Fresh dir D) (hins : ∀ d ∈ copies, Inside dir d.dest) (hin : Inside dir c.dest)
    (hapart : ∀ d ∈ copies, Apart d.dest c.dest)
    (hc : effect (makeDirs true c.dest.parent >>= fun _ => copyFile c.source c.dest) t =
      (.ok (), t')) : Filled dir D (copies ++ [c]) [] t' := by
  obtain ⟨init, last, hup, hroot, hparts⟩ := hin.exists_concat
  obtain ⟨k, r, text, hadded, hsource, -, hr, hdirs, rfl⟩ :=
    exists_of_place (hk.home h₀) hroot hparts hup hk.free hc
  have hnone : k.get? (D ++ (init ++ [last])) = none := by
    refine h.get?_eq_none hadded hparts fun q hq => ?_
    obtain ⟨d, hd, rfl⟩ : ∃ d ∈ copies, d.dest = q := by simpa [Work.places] using hq
    obtain ⟨_, _, _, hdroot, _⟩ := hins d hd
    exact not_prefix_of_apart (hroot.trans hdroot.symm) (hapart d hd)
  obtain rfl : r = init ++ [last] := hr.resolve_right fun hdir => by simp [hnone] at hdir
  have hg : t.Grows (k.put (D ++ (init ++ [last])) (.file text)) :=
    hadded.grows.trans (.put hnone _)
  refine ⟨h.toPaved.put hadded hdirs hparts hnone fun q => ?_, fun d hd q hq => ?_,
    fun x hx => absurd hx List.not_mem_nil⟩
  · simp [Work.places, eq_comm]
  · rcases List.mem_append.1 hd with hd | hd
    · obtain ⟨text', hstatus, he⟩ := h.copied d hd q hq
      exact ⟨text', hg.status? hstatus, hg.get? he⟩
    · obtain rfl := List.mem_singleton.1 hd
      rw [hparts, List.append_cancel_left_eq] at hq
      subst hq
      exact ⟨text, (Grows.put hnone _).status? hsource, get?_put_self _ _ (by simp)⟩

theorem Filled.link (h : Filled dir D copies links t) (hk : t₀.Kept dir D links t)
    (h₀ : t₀.Fresh dir D) (hins : ∀ q ∈ (Work.stage copies links).places, Inside dir q)
    (hin : Inside dir x.link) (hapart : ∀ q ∈ (Work.stage copies links).places, Apart q x.link)
    (hx : effect (makeLink x.target x.link) t = (.ok (), t')) :
    Filled dir D copies (links ++ [x]) t' := by
  obtain ⟨init, last, hup, hroot, hparts⟩ := hin.exists_concat
  have hlinks : ∀ y ∈ links, y.link ∈ (Work.stage copies links).places := fun y hy =>
    List.mem_append_right _ (List.mem_map_of_mem hy)
  have hfree := hk.free_of_not_above (fun y hy => hins _ (hlinks y hy)) hroot hparts
    fun y hy => (hapart _ (hlinks y hy)).2.1
  obtain ⟨hnone, hdirs, rfl⟩ := exists_of_link (hk.home h₀) hroot hparts hup hfree hx
  have hg : t.Grows (t.put (D ++ (init ++ [last])) (.link x.target)) := .put hnone _
  refine ⟨h.toPaved.put (.refl t) hdirs hparts hnone fun q => ?_, fun d hd q hq => ?_,
    fun y hy q hq => ?_⟩
  · simp [Work.places, eq_comm, or_assoc]
  · obtain ⟨text, hstatus, he⟩ := h.copied d hd q hq
    exact ⟨text, hg.status? hstatus, hg.get? he⟩
  · rcases List.mem_append.1 hy with hy | hy
    · exact hg.get? (h.linked y hy q hq)
    · obtain rfl := List.mem_singleton.1 hy
      rw [hparts, List.append_cancel_left_eq] at hq
      subst hq
      exact get?_put_self _ _ (by simp)

end Filled

end FileTree

end BundleWright
