import BundleWright.Proofs.FileTree.Filling
import BundleWright.Proofs.FileTree.Sameness
/-!
Staging from a clean directory. Main statement: what is staged does not depend on what was in the
directory before, changes nothing outside of it unless a link lies below an earlier one, and is all
that the directory holds.
-/
namespace BundleWright

open BundleWright.Path

namespace FileTree

variable {t t' b k u u' b₂ k₂ : FileTree} {dir p : Path} {D D₂ l : Location}

structure SameOff (l : Location) (t t' : FileTree) : Prop where
  get? : ∀ {l'}, ¬l <+: l' → t'.get? l' = t.get? l'
  workDir : t'.workDir = t.workDir

def emptied (dir : Path) : Op Unit := do
  if ← ask (·.exists? dir) then removeTree dir
  makeDirs false dir

/-- How an empty directory is made: `b` is the tree without the old one, `k` has the missing parents
in addition. -/
structure Cleared (t : FileTree) (dir : Path) (D : Location) (b k t' : FileTree) : Prop where
  emptied : (t.erase D).Same b
  done : effect (makeDirs false dir) b = (.ok (), t')
  made : Made dir.parent.lineage b k
  leads : k.resolve .entry dir = .ok D
  vacant : ∀ r, k.get? (D ++ r) = none
  eq : t' = k.put D .dir

theorem same_erase (h : ∀ r, t.get? (l ++ r) = none) : (t.erase l).Same t := by
  refine ⟨fun l' => ?_, rfl⟩
  by_cases hp : l <+: l'
  · obtain ⟨r, rfl⟩ := hp
    rw [h, get?_erase_of_mem (List.prefix_append _ _)]
    intro hnil
    cases (hnil ▸ h r).symm.trans (get?_nil t)
  · rw [get?_erase_of_not hp]

theorem Added.agrees_clear {new : Location → Prop} (h : Added new (t.erase l) k)
    (hdir : t.get? l = some .dir) {x : Location} {e e' : Entry}
    (he : (t.clear l).get? x = some e) (he' : k.get? x = some e') :
    e' = e ∧ (x = l ∨ (t.erase l).get? x = some e) := by
  by_cases hp : l <+: x
  · by_cases hx : x = l
    · subst hx
      rw [get?_clear_self, hdir] at he
      cases he
      refine ⟨?_, .inl rfl⟩
      by_cases hnil : x = []
      · rw [hnil, get?_nil] at he'
        exact (Option.some.inj he').symm
      · exact (h.dir (get?_erase_of_mem hp hnil) he').1
    · cases (get?_clear_of_below hp hx).symm.trans he
  · rw [get?_clear_of_not hp, ← get?_erase_of_not hp] at he
    exact ⟨Option.some.inj (he'.symm.trans (h.grows.get? he)), .inr he⟩

theorem exists_cleared (hw : t.WellFormed) (h : effect (FileTree.emptied dir) t = (.ok (), t')) :
    ∃ D b k, Cleared t dir D b k t' := by
  unfold FileTree.emptied at h
  obtain ⟨there, _, hask, h⟩ := exists_of_effect_bind h
  rw [effect_ask, Prod.mk.injEq] at hask
  obtain ⟨-, rfl⟩ := hask
  cases there with
  | false =>
    obtain ⟨k, D, hmade, hl, hnone, rfl, -⟩ := exists_of_makeDirs_new h
    have hvacant (r : List String) : k.get? (D ++ r) = none := by
      by_cases hr : r = []
      · rwa [hr, List.append_nil]
      · exact (hmade.wellFormed hw).eq_none_of_below (by simp [hnone]) (List.prefix_append _ _)
          (by simp [hr])
    have hsame : (t.erase D).Same t := same_erase fun r => by
      cases ht : t.get? (D ++ r) with
      | none => rfl
      | some e => cases (hmade.grows.get? ht).symm.trans (hvacant r)
    exact ⟨D, t, k, hsame, h, hmade, hl, hvacant, rfl⟩
  | true =>
    obtain ⟨_, t₁, hremove, h⟩ := exists_of_effect_bind h
    obtain ⟨l, -, hdir, hclear, rfl⟩ := exists_of_removeTree hremove
    obtain ⟨k, D, hmade, hl, hnone, rfl, hfirst⟩ := exists_of_makeDirs_new h
    -- the way that was there when the directory was cleared is still there when it is gone
    have hagrees {x e e'} (he : (t.clear l).get? x = some e) (he' : k.get? x = some e') :=
      hmade.agrees_clear hdir he he'
    obtain ⟨rfl, -⟩ := resolve_meet (b := t.clear l) hclear hl hmade.grows.workDir rfl
      fun x e e' he he' => ⟨(hagrees he he').1, he⟩
    obtain ⟨-, hfree⟩ := resolve_meet (b := t.erase D) hclear hl hmade.grows.workDir rfl
      fun x e e' he he' => by
        obtain ⟨heq, rfl | herase⟩ := hagrees he he'
        · cases hnone.symm.trans he'
        · exact ⟨heq, herase⟩
    rcases hfirst with rfl | hno
    · refine ⟨D, _, _, .refl _, h, .refl _, hl, fun r => ?_, rfl⟩
      refine get?_erase_of_mem (List.prefix_append _ _) fun hnil => ?_
      rw [(List.append_eq_nil_iff.1 hnil).1, get?_nil] at hnone
      cases hnone
    · cases hfree.symm.trans hno

theorem fails_emptied (hdir : dir.hasNull = false) :
    Fails (· ≠ .nullInPath) (FileTree.emptied dir) := by
  refine Fails.bind (fun t e he => ?_) fun there => ?_
  · rw [effect_ask] at he
    rw [map_status_eq_error he]
    exact nofun
  · cases there with
    | false => exact fails_makeDirs false hdir
    | true => exact (fails_removeTree hdir).bind fun _ => fails_makeDirs false hdir

namespace Cleared

variable (h : Cleared t dir D b k t')

include h

theorem get?_eq_none : k.get? D = none := List.append_nil D ▸ h.vacant []

theorem grows : k.Grows t' := h.eq ▸ .put h.get?_eq_none .dir

theorem ne_nil : D ≠ [] := by
  rintro rfl
  cases (get?_nil k).symm.trans h.get?_eq_none

theorem fresh : t'.Fresh dir D where
  leads := h.grows.resolve h.leads (.inl rfl)
  isDir := by rw [h.eq, get?_put_self _ _ h.ne_nil]
  empty := fun r hr => by rw [h.eq, get?_put_of_ne _ _ (by simpa using hr), h.vacant]

theorem get?_before (hl : ¬D <+: l) : b.get? l = t.get? l := by
  rw [h.emptied.get?, get?_erase_of_not hl]

theorem not_below {e : Entry} (he : k.get? l = some e) : ¬D <+: l := by
  rintro ⟨r, rfl⟩
  cases (h.vacant r).symm.trans he

/-- All that changes outside is that missing parents are made. -/
theorem outside (hl : ¬D <+: l) : t'.get? l = t.get? l ∨ t.get? l = none ∧
    t'.get? l = some .dir ∧ ∃ q ∈ dir.parent.lineage, t'.resolve .entry q = .ok l := by
  have hput : t'.get? l = k.get? l := by
    rw [h.eq, get?_put_of_ne]
    rintro rfl
    exact hl (List.prefix_refl D)
  rw [hput, ← h.get?_before hl]
  cases hb : b.get? l with
  | some e => exact .inl (h.made.grows.get? hb)
  | none =>
    cases hk : k.get? l with
    | none => exact .inl rfl
    | some e =>
      obtain ⟨rfl, q, hq, hlead⟩ := h.made.dir hb hk
      exact .inr ⟨rfl, rfl, q, hq, h.grows.resolve hlead (.inl rfl)⟩

theorem eq_of_resolve (hl : t.resolve .entry dir = .ok l) : l = D := by
  have hworkDir : k.workDir = t.workDir := h.made.grows.workDir.trans h.emptied.workDir
  refine (resolve_meet (b := t) hl h.leads hworkDir rfl fun x e e' he he' => ⟨?_, he⟩).1.symm
  have hb := (h.get?_before (h.not_below he')).trans he
  exact Option.some.inj (he'.symm.trans (h.made.grows.get? hb))

theorem grows_emptied : ((t.erase D).put D .dir).Grows t' := by
  refine ⟨fun {l e} he => ?_, ?_⟩
  · by_cases hl : D = l
    · subst hl
      rw [get?_put_self _ _ h.ne_nil] at he
      rw [← he, h.fresh.isDir]
    · rw [get?_put_of_ne _ _ hl, ← h.emptied.get?] at he
      exact h.grows.get? (h.made.grows.get? he)
  · exact h.grows.workDir.trans (h.made.grows.workDir.trans h.emptied.workDir)

/-- What was in the directory makes no difference. -/
theorem same (h₂ : Cleared u dir D₂ b₂ k₂ u') (hoff : SameOff D t u) : t'.Same u' := by
  have hstart : b₂.workDir = b.workDir := by
    rw [h₂.emptied.workDir, h.emptied.workDir]
    exact hoff.workDir
  obtain ⟨rfl, -⟩ := resolve_meet (b := k) h.leads h₂.leads
    (by rw [h₂.made.grows.workDir, hstart, h.made.grows.workDir]) rfl fun x e e' he he' => by
      have hb₂ : b₂.get? x = b.get? x := by
        rw [h₂.get?_before (h₂.not_below he'), hoff.get? (h.not_below he),
          h.get?_before (h.not_below he)]
      refine ⟨?_, he⟩
      cases hb : b.get? x with
      | some e₀ =>
        cases (h.made.grows.get? hb).symm.trans he
        cases (h₂.made.grows.get? (hb₂.trans hb)).symm.trans he'
        rfl
      | none => rw [(h.made.dir hb he).1, (h₂.made.dir (hb₂.trans hb) he').1]
  have hsame : b.Same b₂ := by
    refine ⟨fun l => ?_, hstart⟩
    by_cases hl : D₂ <+: l
    · obtain ⟨r, rfl⟩ := hl
      have hnil : D₂ ++ r ≠ [] := by simp [h.ne_nil]
      rw [h.emptied.get?, h₂.emptied.get?, get?_erase_of_mem (List.prefix_append _ _) hnil,
        get?_erase_of_mem (List.prefix_append _ _) hnil]
    · rw [h₂.get?_before hl, hoff.get? hl, h.get?_before hl]
  have htwin := (twin_makeDirs false dir b b₂ hsame).2
  rwa [h.done, h₂.done] at htwin

end Cleared

end FileTree

section Sequence

variable {ε σ α : Type} {step : α → ExceptT ε (StateM σ) PUnit} {as : List α} {m m' : σ}

/-- What holds before some steps and is kept by each of them holds when all are done. -/
theorem forM_induction {motive : List α → σ → Prop} (hnil : motive [] m)
    (hstep : ∀ done a rest m₁ m₂, as = done ++ a :: rest → motive done m₁ →
      effect (step a) m₁ = (.ok ⟨⟩, m₂) → motive (done ++ [a]) m₂)
    (h : effect (as.forM step) m = (.ok ⟨⟩, m')) : motive as m' := by
  have hrun (rest : List α) : ∀ done m, as = done ++ rest → motive done m →
      effect (rest.forM step) m = (.ok ⟨⟩, m') → motive as m' := by
    induction rest with
    | nil =>
      intro done m has hdone hrest
      cases hrest
      rwa [has, List.append_nil]
    | cons a rest ih =>
      intro done m has hdone hrest
      obtain ⟨_, m₁, ha, hrest⟩ := exists_of_effect_bind hrest
      exact ih (done ++ [a]) m₁ (by rw [has, List.append_assoc]; rfl)
        (hstep done a rest m m₁ has hdone ha) hrest
  exact hrun as [] m rfl hnil h

end Sequence

namespace Run

section OnTree

variable {α : Type} {wrap : FileError → RunError} {op : FileTree.Op α} {a : α} {m m' : Machine}

theorem effect_onTree_fst (wrap : FileError → RunError) (op : FileTree.Op α) (m : Machine) :
    (effect (onTree wrap op) m).1 = match (effect op m.tree).1 with
      | .ok a => .ok a
      | .error .nullInPath => .error (.refused .nullInPath)
      | .error e => .error (wrap e) := by
  unfold onTree
  rw [effect_bind_of_ok effect_get]
  cases h : effect op m.tree with
  | mk result tree =>
    have hrun : op.run.run m.tree = (result, tree) := h
    simp only [hrun]
    rw [effect_bind_of_ok effect_set]
    cases result with
    | ok a => rfl
    | error e => cases e <;> rfl

theorem effect_tree_of_onTree (h : effect (onTree wrap op) m = (.ok a, m')) :
    effect op m.tree = (.ok a, m'.tree) := by
  have hstate := effect_onTree wrap op m
  have hresult := effect_onTree_fst wrap op m
  rw [h] at hstate hresult
  refine Prod.ext ?_ (congrArg Machine.tree hstate).symm
  split at hresult
  · next he => rw [he, Except.ok.inj hresult]
  · cases hresult
  · cases hresult

/-- A failure with one of the codes, or something that cannot be named where not all is `named`. -/
def Shaped (codes : List String) (named : Prop) (e : RunError) : Prop :=
  (∃ f, e = .failed f ∧ f.code ∈ codes) ∨ e = .refused .nullInPath ∧ ¬named

theorem Shaped.mono {codes : List String} {named named' : Prop} {e : RunError}
    (h : Shaped codes named e) (himp : named' → named) : Shaped codes named' e :=
  h.imp_right fun ⟨he, hnamed⟩ => ⟨he, fun hn => hnamed (himp hn)⟩

theorem shaped_onTree {codes : List String} {named : Prop} (wrap : FileError → ActionFailure)
    (h : named → Fails (· ≠ .nullInPath) op) (hcode : ∀ cause, (wrap cause).code ∈ codes) :
    Fails (Shaped codes named) (onTree (.failed ∘ wrap) op) := by
  intro m e he
  rw [effect_onTree_fst] at he
  split at he
  · cases he
  · next hnull =>
    cases he
    exact .inr ⟨rfl, fun hnamed => h hnamed _ _ hnull rfl⟩
  · cases he
    exact .inl ⟨_, rfl, hcode _⟩

def SameTree (m m' : Machine) : Prop := m.tree.Same m'.tree

theorem twin_onTree (wrap : FileError → RunError) (h : Twin FileTree.Same op op) :
    Twin SameTree (onTree wrap op) (onTree wrap op) := by
  intro m m' hm
  obtain ⟨hresult, htree⟩ := h _ _ hm
  refine ⟨by rw [effect_onTree_fst, effect_onTree_fst, hresult], ?_⟩
  unfold SameTree
  rwa [effect_onTree, effect_onTree]

end OnTree

section Stage

variable {dir : Path} {D : Location} {copies : List FileCopy} {links : List FileLink}
  {t₀ : FileTree} {m m' m₀ m₁ : Machine}

def placeAll (copies : List FileCopy) : Run Unit := copies.forM fun c => placeFile c.source c.dest

def linkAll (links : List FileLink) : Run Unit :=
  links.forM fun x => onTree (.failed ∘ .link x.target x.link) (FileTree.makeLink x.target x.link)

theorem stage_eq (dir : Path) (copies : List FileCopy) (links : List FileLink) :
    stage dir copies links =
      (prepare dir >>= fun _ => placeAll copies >>= fun _ => linkAll links) := rfl

theorem emptied_of_prepare (h : effect (prepare dir) m = (.ok (), m')) :
    effect (FileTree.emptied dir) m.tree = (.ok (), m'.tree) := by
  obtain ⟨_, m₁, hop, hrest⟩ := exists_of_effect_bind h
  have htree := effect_tree_of_onTree hop
  cases hrest
  exact htree

theorem kept_of_placeAll (h₀ : t₀.Fresh dir D) (hm : t₀.Kept dir D [] m.tree)
    (hin : ∀ c ∈ copies, Inside dir c.dest) (h : effect (placeAll copies) m = (.ok (), m')) :
    t₀.Kept dir D [] m'.tree := by
  refine forM_induction (motive := fun _ m => t₀.Kept dir D [] m.tree) hm ?_ h
  rintro done c rest m₁ m₂ rfl hk hc
  exact hk.place h₀ (hin c (by simp)) (effect_tree_of_onTree hc)

theorem filled_of_placeAll (h₀ : t₀.Fresh dir D) (hm : t₀.Kept dir D [] m.tree)
    (hfilled : FileTree.Filled dir D [] [] m.tree) (hin : ∀ c ∈ copies, Inside dir c.dest)
    (hapart : copies.Pairwise fun c d => Apart c.dest d.dest)
    (h : effect (placeAll copies) m = (.ok (), m')) :
    FileTree.Filled dir D copies [] m'.tree := by
  refine (forM_induction (motive := fun done m =>
    t₀.Kept dir D [] m.tree ∧ FileTree.Filled dir D done [] m.tree) ⟨hm, hfilled⟩ ?_ h).2
  rintro done c rest m₁ m₂ rfl ⟨hk, hf⟩ hc
  have hc := effect_tree_of_onTree hc
  obtain ⟨-, -, hdone⟩ := List.pairwise_append.1 hapart
  exact ⟨hk.place h₀ (hin c (by simp)) hc, hf.place hk h₀ (fun d hd => hin d (by simp [hd]))
    (hin c (by simp)) (fun d hd => hdone d hd c (by simp)) hc⟩

theorem grows_of_linkAll (h : effect (linkAll links) m = (.ok (), m')) : m.tree.Grows m'.tree := by
  refine forM_induction (motive := fun _ m' => m.tree.Grows m'.tree) (.refl _) ?_ h
  intro done x rest m₁ m₂ _ hg hx
  obtain ⟨l, -, hnone, he⟩ := FileTree.exists_of_makeLink (effect_tree_of_onTree hx)
  exact he ▸ hg.trans (.put hnone _)

theorem kept_of_linkAll (h₀ : t₀.Fresh dir D) (hm : t₀.Kept dir D [] m.tree)
    (hin : ∀ x ∈ links, Inside dir x.link)
    (habove : links.Pairwise fun x y => ¬Above x.link y.link)
    (h : effect (linkAll links) m = (.ok (), m')) : t₀.Kept dir D links m'.tree := by
  refine forM_induction (motive := fun done m => t₀.Kept dir D done m.tree) hm ?_ h
  rintro done x rest m₁ m₂ rfl hk hx
  obtain ⟨-, -, hdone⟩ := List.pairwise_append.1 habove
  exact hk.link h₀ (fun y hy => hin y (by simp [hy])) (hin x (by simp))
    (fun y hy => hdone y hy x (by simp)) (effect_tree_of_onTree hx)

theorem beside_of_linkAll (h₀ : t₀.Fresh dir D) (hm : t₀.Kept dir D [] m.tree)
    (hin : ∀ x ∈ links, Inside dir x.link) (hplain : ∀ x ∈ links, isPlainName x.target = true)
    (h : effect (linkAll links) m = (.ok (), m')) : t₀.Beside D m'.tree := by
  refine forM_induction (motive := fun _ m => t₀.Beside D m.tree) hm.beside ?_ h
  rintro done x rest m₁ m₂ rfl hb hx
  exact hb.link h₀ (hin x (by simp)) (hplain x (by simp)) (effect_tree_of_onTree hx)

theorem filled_of_linkAll (h₀ : t₀.Fresh dir D) (hm : t₀.Kept dir D [] m.tree)
    (hfilled : FileTree.Filled dir D copies [] m.tree)
    (hin : ∀ p ∈ (Work.stage copies links).places, Inside dir p)
    (hapart : (Work.stage copies links).places.Pairwise Apart)
    (h : effect (linkAll links) m = (.ok (), m')) :
    FileTree.Filled dir D copies links m'.tree := by
  refine (forM_induction (motive := fun done m =>
    t₀.Kept dir D done m.tree ∧ FileTree.Filled dir D copies done m.tree) ⟨hm, hfilled⟩ ?_ h).2
  rintro done x rest m₁ m₂ rfl ⟨hk, hf⟩ hx
  have hx := effect_tree_of_onTree hx
  have hplaces : (Work.stage copies (done ++ x :: rest)).places =
      (Work.stage copies done).places ++ (x :: rest).map (·.link) := by
    simp [Work.places]
  rw [hplaces] at hin hapart
  have hins : ∀ q ∈ (Work.stage copies done).places, Inside dir q :=
    fun q hq => hin q (List.mem_append_left _ hq)
  have hmem : x.link ∈ (x :: rest).map (·.link) := List.mem_cons_self
  have hx_in : Inside dir x.link := hin _ (List.mem_append_right _ hmem)
  have hdone : ∀ q ∈ (Work.stage copies done).places, Apart q x.link :=
    fun q hq => (List.pairwise_append.1 hapart).2.2 q hq _ hmem
  have hlinks : ∀ y ∈ done, y.link ∈ (Work.stage copies done).places :=
    fun y hy => List.mem_append_right _ (List.mem_map_of_mem hy)
  exact ⟨hk.link h₀ (fun y hy => hins _ (hlinks y hy)) hx_in
    (fun y hy => (hdone _ (hlinks y hy)).2.1) hx, hf.link hk h₀ hins hx_in hdone hx⟩

theorem twin_copies_links (copies : List FileCopy) (links : List FileLink) :
    Twin SameTree (placeAll copies >>= fun _ => linkAll links)
      (placeAll copies >>= fun _ => linkAll links) :=
  (twin_forM fun _ _ => twin_onTree _
    ((FileTree.twin_makeDirs _ _).bind fun _ => FileTree.twin_copyFile _ _)).bind fun _ =>
      twin_forM fun _ _ => twin_onTree _ (FileTree.twin_makeLink _ _)

structure Nameable (dir : Path) (copies : List FileCopy) (links : List FileLink) : Prop where
  dir : dir.hasNull = false
  copies : ∀ c ∈ copies, c.source.hasNull = false ∧ c.dest.hasNull = false
  links : ∀ x ∈ links, x.target.toList.contains Path.null = false ∧ x.link.hasNull = false

theorem shaped_placeFile (source dest : Path) :
    Fails (Shaped ["stage_error"] (source.hasNull = false ∧ dest.hasNull = false))
      (placeFile source dest) :=
  shaped_onTree (.place source dest) (fun h =>
    (FileTree.fails_makeDirs true (hasNull_parent h.2)).bind fun _ =>
      FileTree.fails_copyFile h.1 h.2) fun _ => List.mem_singleton.2 rfl

theorem shaped_stage (dir : Path) (copies : List FileCopy) (links : List FileLink) :
    Fails (Shaped ["stage_error"] (Nameable dir copies links)) (stage dir copies links) := by
  have hprepare : Fails (Shaped ["stage_error"] (Nameable dir copies links)) (prepare dir) :=
    (shaped_onTree (.prepare dir) (fun h => FileTree.fails_emptied h.dir) fun _ =>
      List.mem_singleton.2 rfl).bind fun _ => .of_modify _
  refine hprepare.bind fun _ =>
    (Fails.forM fun c hc m e he => ?_).bind fun _ => .forM fun x hx => ?_
  · exact (shaped_placeFile c.source c.dest m e he).mono fun h => h.copies c hc
  · exact shaped_onTree (.link x.target x.link) (fun h =>
      FileTree.fails_makeLink (h.links x hx).1 (h.links x hx).2) fun _ => List.mem_singleton.2 rfl

theorem fails_stage (h : Nameable dir copies links) :
    Fails (fun e => ∃ f, e = .failed f ∧ f.code = "stage_error") (stage dir copies links) := by
  intro m e he
  rcases shaped_stage dir copies links m e he with ⟨f, hf, hcode⟩ | ⟨-, hnamed⟩
  · exact ⟨f, hf, List.mem_singleton.1 hcode⟩
  · exact absurd h hnamed

/-- What a directory is staged to depends on nothing that was in it; outside only missing parents
are made, if no link lies below an earlier one or all ask for something beside them; and the
directory holds what is staged and nothing else. When it fails, the failure is one of staging. -/
theorem stage_from_clean (dir : Path) (copies : List FileCopy) (links : List FileLink)
    (hin : ∀ p ∈ (Work.stage copies links).places, Inside dir p) :
    (Nameable dir copies links → ∀ m e, (effect (stage dir copies links) m).1 = .error e →
      ∃ f, e = .failed f ∧ f.code = "stage_error") ∧
    ∀ m m', m.tree.WellFormed → effect (stage dir copies links) m = (.ok (), m') →
      ∃ D, m'.tree.Home dir D ∧ (∀ l, m.tree.resolve .entry dir = .ok l → l = D) ∧
        (∀ n n', n.tree.WellFormed → FileTree.SameOff D m.tree n.tree →
          effect (stage dir copies links) n = (.ok (), n') → m'.tree.Same n'.tree) ∧
        (links.Pairwise (fun x y => ¬Above x.link y.link) ∨
            (∀ x ∈ links, isPlainName x.target = true) → ∀ l, ¬D <+: l →
          m'.tree.get? l = m.tree.get? l ∨ m.tree.get? l = none ∧ m'.tree.get? l = some .dir ∧
            ∃ q ∈ dir.parent.lineage, m'.tree.resolve .entry q = .ok l) ∧
        ((Work.stage copies links).places.Pairwise Apart →
          FileTree.Filled dir D copies links m'.tree) ∧
        ∀ c ∈ copies, ∀ text,
          ((m.tree.erase D).put D .dir).status? c.source = some (.file text) →
            m'.tree.status? c.source = some (.file text) := by
  refine ⟨fun h m e he => fails_stage h m e he, fun m m' hw h => ?_⟩
  have hcopies : ∀ c ∈ copies, Inside dir c.dest := fun c hc =>
    hin _ (List.mem_append_left _ (List.mem_map_of_mem hc))
  have hlinks : ∀ x ∈ links, Inside dir x.link := fun x hx =>
    hin _ (List.mem_append_right _ (List.mem_map_of_mem hx))
  rw [stage_eq] at h
  obtain ⟨_, m₀, hprepare, hrest⟩ := exists_of_effect_bind h
  obtain ⟨_, m₁, hplace, hlink⟩ := exists_of_effect_bind hrest
  obtain ⟨D, b, k, hclear⟩ := FileTree.exists_cleared hw (emptied_of_prepare hprepare)
  have h₀ := hclear.fresh
  have hkept := kept_of_placeAll h₀ h₀.kept hcopies hplace
  have hgrows : m₀.tree.Grows m'.tree := (hkept.grows h₀).trans (grows_of_linkAll hlink)
  refine ⟨D, h₀.toHome.grows hgrows, fun l => hclear.eq_of_resolve, ?_, ?_, ?_, ?_⟩
  · intro n n' hn hoff h
    rw [stage_eq] at h
    obtain ⟨_, n₀, hprepare', hrest'⟩ := exists_of_effect_bind h
    obtain ⟨D', b', k', hclear'⟩ := FileTree.exists_cleared hn (emptied_of_prepare hprepare')
    have htwin := (twin_copies_links copies links m₀ n₀ (hclear.same hclear' hoff)).2
    rwa [hrest, hrest'] at htwin
  · intro hsafe l hl
    have hwithin : m₀.tree.Within D m'.tree :=
      hsafe.elim (fun habove => (kept_of_linkAll h₀ hkept hlinks habove hlink).toWithin)
        fun hplain => (beside_of_linkAll h₀ hkept hlinks hplain hlink).toWithin
    rw [hwithin.outside l (by rintro r - rfl; exact hl (List.prefix_append _ _))]
    refine (hclear.outside hl).imp_right fun ⟨hnone, hdir, q, hq, hlead⟩ => ?_
    exact ⟨hnone, hdir, q, hq, hgrows.resolve hlead (.inl rfl)⟩
  · intro hapart
    have hdests : copies.Pairwise fun c d => Apart c.dest d.dest :=
      List.pairwise_map.1 (List.pairwise_append.1 hapart).1
    exact filled_of_linkAll h₀ hkept (filled_of_placeAll h₀ h₀.kept h₀.filled hcopies hdests hplace)
      hin hapart hlink
  · intro c _ text hstatus
    exact (hclear.grows_emptied.trans hgrows).status? hstatus

theorem effect_of_fst {α : Type} {r : Run α} {a : α} (h : (effect r m).1 = .ok a) :
    effect r m = (.ok a, (effect r m).2) := Prod.ext h rfl

def staleTree : FileTree where
  entries := [(["out"], .dir), (["out", "tool"], .file "#!/bin/sh\n"), (["img"], .dir),
    (["img", "lib"], .dir), (["img", "lib", "stale.so"], .file "old")]

def toolCopy : FileCopy := ⟨.ofString "out/tool", .ofString "img/bin/tool"⟩

def toolLink : FileLink := ⟨"tool", .ofString "img/bin/tool_alias"⟩

theorem stage_from_clean_stale :
    ∃ m' n', effect (stage (.ofString "img") [toolCopy] [toolLink]) { tree := staleTree } =
        (.ok (), m') ∧
      effect (stage (.ofString "img") [toolCopy] [toolLink])
        { tree := staleTree.erase ["img"] } = (.ok (), n') ∧
      m'.tree.Same n'.tree ∧
      FileTree.Filled (.ofString "img") ["img"] [toolCopy] [toolLink] m'.tree ∧
      m'.tree.status? (.ofString "out/tool") = some (.file "#!/bin/sh\n") ∧
      m'.tree.get? ["out"] = some .dir := by
  have hin : ∀ p ∈ (Work.stage [toolCopy] [toolLink]).places, Inside (.ofString "img") p := by
    intro p hp
    rcases List.mem_cons.1 hp with rfl | hp
    · exact ⟨["bin", "tool"], by decide, by decide, by decide +kernel, by decide +kernel⟩
    · rw [List.mem_singleton.1 hp]
      exact ⟨["bin", "tool_alias"], by decide, by decide, by decide +kernel, by decide +kernel⟩
  have hw : staleTree.WellFormed := FileTree.wellFormed_of_entries (by decide) (by decide)
  have hw' : (staleTree.erase ["img"]).WellFormed :=
    FileTree.wellFormed_of_entries (by decide) (by decide)
  have hm : (effect (stage (.ofString "img") [toolCopy] [toolLink]) { tree := staleTree }).1 =
      .ok () := by decide +kernel
  have hn : (effect (stage (.ofString "img") [toolCopy] [toolLink])
      { tree := staleTree.erase ["img"] }).1 = .ok () := by decide +kernel
  obtain ⟨-, hrun⟩ := stage_from_clean (.ofString "img") [toolCopy] [toolLink] hin
  obtain ⟨D, -, hD, hagree, hframe, hfilled, hsource⟩ := hrun _ _ hw (effect_of_fst hm)
  obtain rfl : ["img"] = D := hD _ (by decide +kernel)
  have hsame := hagree { tree := staleTree.erase ["img"] } _ hw'
    ⟨FileTree.get?_erase_of_not, rfl⟩ (effect_of_fst hn)
  refine ⟨_, _, effect_of_fst hm, effect_of_fst hn, hsame, hfilled (by decide +kernel),
    hsource toolCopy List.mem_cons_self _ (by decide +kernel), ?_⟩
  rcases hframe (.inl (by decide +kernel)) ["out"] (by decide) with h | ⟨h, -⟩
  · rw [h]
    decide
  · exact absurd h (by decide)

/-- A link that is made below an earlier one can come to lie outside; a source whose way goes through
what was in the directory is another file when it is copied; and a directory that the system cannot
name is no failure of staging. -/
theorem staging_leaves_dir :
    (∃ dir links m', (∀ p ∈ (Work.stage [] links).places, Inside dir p) ∧
      effect (stage dir [] links) { tree := {} } = (.ok (), m') ∧
      m'.tree.resolve .entry dir = .ok ["img"] ∧ ({} : FileTree).get? ["y"] = none ∧
        m'.tree.get? ["y"] = some (.link "t")) ∧
    (∃ dir copies m m', (∀ p ∈ (Work.stage copies []).places, Inside dir p) ∧
      (Work.stage copies []).places.Pairwise Apart ∧ m.tree.WellFormed ∧
      m.tree.resolve .entry dir = .ok ["img"] ∧
      (∀ c ∈ copies, ∃ l text, m.tree.resolve .target c.source = .ok l ∧
        m.tree.get? l = some (.file text) ∧ ¬["img"] <+: l) ∧
      effect (stage dir copies []) m = (.ok (), m') ∧
      ∃ c ∈ copies, m.tree.status? c.source = some (.file "old") ∧
        m'.tree.status? c.dest = some (.file "new")) ∧
    ∃ dir e, (effect (stage dir [] []) { tree := {} }).1 = .error e ∧ ∀ f, e ≠ .failed f := by
  refine ⟨?_, ?_, .ofString "d\x00", .refused .nullInPath, by decide +kernel,
    fun f => by simp⟩
  · have hrun : (effect (stage (.ofString "img") []
        [⟨"..", .ofString "img/s"⟩, ⟨"t", .ofString "img/s/y"⟩]) { tree := {} }).1 = .ok () := by
      decide +kernel
    refine ⟨.ofString "img", [⟨"..", .ofString "img/s"⟩, ⟨"t", .ofString "img/s/y"⟩], _, ?_,
      effect_of_fst hrun, by decide +kernel, by decide, by decide +kernel⟩
    intro p hp
    rcases List.mem_cons.1 hp with rfl | hp
    · exact ⟨["s"], by decide, by decide, by decide +kernel, by decide +kernel⟩
    · rw [List.mem_singleton.1 hp]
      exact ⟨["s", "y"], by decide, by decide, by decide +kernel, by decide +kernel⟩
  · let copies : List FileCopy :=
      [⟨.ofString "new", .ofString "img/l"⟩, ⟨.ofString "img/l", .ofString "img/c"⟩]
    let tree : FileTree :=
      { entries := [(["new"], .file "new"), (["old"], .file "old"), (["img"], .dir),
          (["img", "l"], .link "../old")] }
    have hrun : (effect (stage (.ofString "img") copies []) { tree }).1 = .ok () := by
      decide +kernel
    refine ⟨.ofString "img", copies, { tree }, _, ?_, by decide +kernel,
      FileTree.wellFormed_of_entries (by decide) (by decide), by decide +kernel, ?_,
      effect_of_fst hrun, ⟨.ofString "img/l", .ofString "img/c"⟩, by decide +kernel,
      by decide +kernel, by decide +kernel⟩
    · intro p hp
      rcases List.mem_cons.1 hp with rfl | hp
      · exact ⟨["l"], by decide, by decide, by decide +kernel, by decide +kernel⟩
      · rw [List.mem_singleton.1 hp]
        exact ⟨["c"], by decide, by decide, by decide +kernel, by decide +kernel⟩
    · intro c hc
      rcases List.mem_cons.1 hc with rfl | hc
      · exact ⟨["new"], "new", by decide +kernel, by decide, by decide⟩
      · rw [List.mem_singleton.1 hc]
        exact ⟨["old"], "old", by decide +kernel, by decide, by decide⟩

end Stage

end Run

end BundleWright
