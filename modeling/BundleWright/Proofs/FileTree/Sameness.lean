import BundleWright.Proofs.FileTree.Operations
/-!
Trees with the same entries at the same places. Main statement: staging on such trees gives the same
result and leaves such trees.
-/
namespace BundleWright

section Twin

variable {ε σ α β : Type} {R : σ → σ → Prop} {x y : ExceptT ε (StateM σ) α}
  {f g : α → ExceptT ε (StateM σ) β} {m m' : σ}

/-- Whether two steps give the same on related states and leave related states. -/
def Twin (R : σ → σ → Prop) (x y : ExceptT ε (StateM σ) α) : Prop :=
  ∀ m m', R m m' → (effect y m').1 = (effect x m).1 ∧ R (effect x m).2 (effect y m').2

theorem twin_pure (a : α) : Twin R (pure a : ExceptT ε (StateM σ) α) (pure a) :=
  fun _ _ h => ⟨rfl, h⟩

theorem twin_throw (e : ε) : Twin R (throw e : ExceptT ε (StateM σ) α) (throw e) :=
  fun _ _ h => ⟨rfl, h⟩

theorem twin_set (h : R m m') : Twin R (set m : ExceptT ε (StateM σ) PUnit) (set m') :=
  fun _ _ _ => ⟨rfl, h⟩

theorem Twin.bind (h : Twin R x y) (hf : ∀ a, Twin R (f a) (g a)) :
    Twin R (x >>= f) (y >>= g) := by
  intro m m' hm
  obtain ⟨hresult, hR⟩ := h m m' hm
  cases hx : effect x m with
  | mk result m₁ =>
    cases hy : effect y m' with
    | mk result' m₁' =>
      rw [hx, hy] at hresult hR
      cases hresult
      cases result with
      | error e =>
        rw [effect_bind_of_error hx, effect_bind_of_error hy]
        exact ⟨rfl, hR⟩
      | ok a =>
        rw [effect_bind_of_ok hx, effect_bind_of_ok hy]
        exact hf a _ _ hR

theorem Twin.tryCatch (h : Twin R x y) {k k' : ε → ExceptT ε (StateM σ) α}
    (hk : ∀ e, Twin R (k e) (k' e)) : Twin R (tryCatch x k) (tryCatch y k') := by
  intro m m' hm
  obtain ⟨hresult, hR⟩ := h m m' hm
  cases hx : effect x m with
  | mk result m₁ =>
    cases hy : effect y m' with
    | mk result' m₁' =>
      rw [hx, hy] at hresult hR
      cases hresult
      cases result with
      | error e =>
        rw [effect_tryCatch_of_error hx, effect_tryCatch_of_error hy]
        exact hk e _ _ hR
      | ok a =>
        rw [effect_tryCatch_of_ok hx, effect_tryCatch_of_ok hy]
        exact ⟨rfl, hR⟩

theorem twin_get_bind {f g : σ → ExceptT ε (StateM σ) β}
    (h : ∀ s s', R s s' → Twin R (f s) (g s')) : Twin R (get >>= f) (get >>= g) :=
  fun m m' hm => h m m' hm m m' hm

theorem twin_forM {as : List α} {step : α → ExceptT ε (StateM σ) PUnit}
    (h : ∀ a ∈ as, Twin R (step a) (step a)) : Twin R (as.forM step) (as.forM step) := by
  induction as with
  | nil => exact twin_pure _
  | cons a as ih =>
    exact (h a List.mem_cons_self).bind fun _ => ih fun x hx => h x (List.mem_cons_of_mem a hx)

end Twin

namespace FileTree

structure Same (t t' : FileTree) : Prop where
  get? : ∀ l, t'.get? l = t.get? l
  workDir : t'.workDir = t.workDir

theorem Same.refl (t : FileTree) : t.Same t := ⟨fun _ => rfl, rfl⟩

theorem Same.symm {t t' : FileTree} (h : t.Same t') : t'.Same t :=
  ⟨fun l => (h.get? l).symm, h.workDir.symm⟩

theorem Same.trans {t t₁ t' : FileTree} (h : t.Same t₁) (h' : t₁.Same t') : t.Same t' :=
  ⟨fun l => (h'.get? l).trans (h.get? l), h'.workDir.trans h.workDir⟩

theorem descend_congr {t t' : FileTree} (h : ∀ l, t'.get? l = t.get? l) (reach : Reach) (n : Nat)
    (dir : Location) (steps : List String) :
    descend t' reach n dir steps = descend t reach n dir steps := by
  fun_induction descend t reach n dir steps with
  | case1 => exact descend_nil
  | case2 _ _ _ _ hc ih => rw [descend_skip hc, ih]
  | case3 _ _ _ _ ih => rw [descend_up, ih]
  | case4 _ _ _ _ h1 h2 h3 => rw [descend, if_neg h1, if_neg h2, if_pos h3]
  | case5 _ _ _ _ h1 h2 h3 h4 => rw [descend, if_neg h1, if_neg h2, if_neg h3, if_pos h4]
  | case6 _ _ _ h1 h2 h4 _ ht h3 =>
    rw [descend_named (.of_not h1 h2 h3 h4), h, ht]
    exact if_pos rfl
  | case7 _ _ _ _ h1 h2 h3 h4 _ ht hr =>
    rw [descend_named (.of_not h1 h2 h3 h4), h, ht]
    exact if_neg hr
  | case8 _ _ _ _ h1 h2 h3 h4 _ ht ih =>
    rw [descend_named (.of_not h1 h2 h3 h4), h, ht]
    exact ih
  | case9 _ _ _ h1 h2 h4 _ _ ht h3 =>
    rw [descend_named (.of_not h1 h2 h3 h4), h, ht]
    exact if_pos rfl
  | case10 _ _ _ _ h1 h2 h3 h4 _ _ ht hr =>
    rw [descend_named (.of_not h1 h2 h3 h4), h, ht]
    exact if_neg hr
  | case11 _ _ _ _ h1 h2 h3 h4 _ _ ht hend =>
    rw [descend_named (.of_not h1 h2 h3 h4), h, ht]
    exact if_pos hend
  | case12 _ _ _ h1 h2 h3 h4 _ _ ht hend =>
    rw [descend_named (.of_not h1 h2 h3 h4), h, ht]
    exact if_neg hend
  | case13 _ _ _ h1 h2 h3 h4 _ _ ht hend _ ih =>
    rw [descend_named (.of_not h1 h2 h3 h4), h, ht]
    exact (if_neg hend).trans ih

namespace Same

variable {t t' : FileTree} (h : t.Same t')

include h

theorem resolve (reach : Reach) (p : Path) : t'.resolve reach p = t.resolve reach p := by
  rw [FileTree.resolve, h.workDir, descend_congr h.get?, FileTree.resolve]

theorem status? (p : Path) : t'.status? p = t.status? p := by
  simp only [FileTree.status?, h.resolve, h.get?]

theorem status (p : Path) : t'.status p = t.status p := by
  simp only [FileTree.status, h.resolve, h.get?]

theorem isDir (p : Path) : t'.isDir p = t.isDir p := by
  rw [FileTree.isDir, h.status, FileTree.isDir]

theorem put (l : Location) (e : Entry) : (t.put l e).Same (t'.put l e) := by
  refine ⟨fun l' => ?_, h.workDir⟩
  by_cases hl : l = l'
  · subst hl
    by_cases hnil : l = []
    · rw [hnil, get?_nil, get?_nil]
    · rw [get?_put_self _ _ hnil, get?_put_self _ _ hnil]
  · rw [get?_put_of_ne _ _ hl, get?_put_of_ne _ _ hl, h.get?]

end Same

section Ops

variable {α : Type} {p : Path}

theorem twin_ask {question : FileTree → Except FileError α}
    (h : ∀ t t', FileTree.Same t t' → question t' = question t) :
    Twin Same (ask question) (ask question) := by
  refine twin_get_bind fun t t' ht => ?_
  rw [h t t' ht]
  cases question t with
  | ok a => exact twin_pure a
  | error e => exact twin_throw e

theorem twin_locate (reach : Reach) (p : Path) (refusal : Errno → FileError) :
    Twin Same (locate reach p refusal) (locate reach p refusal) :=
  twin_ask fun _ _ h => by simp only [h.resolve]

theorem twin_makeDir (p : Path) : Twin Same (makeDir p) (makeDir p) := by
  refine (twin_locate _ _ _).bind fun l => twin_get_bind fun t t' h => ?_
  rw [h.get?]
  split
  · exact twin_throw _
  · exact twin_set (h.put l _)

theorem twin_makeDirUnless (existing : Bool) (p : Path) :
    Twin Same (makeDirUnless existing p) (makeDirUnless existing p) := by
  refine (twin_makeDir p).tryCatch fun e => ?_
  split
  · exact twin_throw _
  · exact twin_throw _
  · split
    · refine (twin_ask fun _ _ h => h.isDir p).bind fun b => ?_
      split
      · exact twin_pure _
      · exact twin_throw _
    · exact twin_throw _

theorem twin_makeDirs (existing : Bool) (p : Path) :
    Twin Same (makeDirs existing p) (makeDirs existing p) := by
  induction p using Path.parent_induction generalizing existing with
  | h p ih =>
    rw [makeDirs_eq]
    refine (twin_makeDirUnless existing p).tryCatch fun e => ?_
    split
    · split
      · exact twin_throw _
      · next hne => exact (ih hne true).bind fun _ => twin_makeDirUnless existing p
    · exact twin_throw _

theorem twin_readText (p : Path) (shown : String) :
    Twin Same (readText p shown) (readText p shown) := by
  refine (twin_locate _ _ _).bind fun l => twin_get_bind fun t t' h => ?_
  rw [h.get?]
  split
  · exact twin_pure _
  · exact twin_throw _
  · exact twin_throw _

theorem twin_writeText (p : Path) (text shown : String) :
    Twin Same (writeText p text shown) (writeText p text shown) := by
  refine (twin_locate _ _ _).bind fun l => twin_get_bind fun t t' h => ?_
  rw [h.get?]
  split
  · exact twin_throw _
  · exact twin_set (h.put l _)

theorem twin_copyFile (source dest : Path) :
    Twin Same (copyFile source dest) (copyFile source dest) := by
  rw [copyFile_eq]
  refine twin_get_bind fun t t' h => ?_
  have hdest : t'.copyDest source dest = t.copyDest source dest := by
    simp only [copyDest, h.status?]
  have hshown : t'.copyShown source dest = t.copyShown source dest := by
    simp only [copyShown, h.status?]
  have hfound (p : Path) : t'.found? p = t.found? p := by
    simp only [found?, h.resolve, h.get?]
  simp only [hdest, hshown, hfound, h.status?]
  split
  · exact twin_throw _
  · split
    · exact twin_throw _
    · refine (twin_readText _ _).bind fun text => (twin_writeText _ _ _).tryCatch fun e => ?_
      split <;> exact twin_throw _

theorem twin_makeLink (target : String) (link : Path) :
    Twin Same (makeLink target link) (makeLink target link) := by
  rw [makeLink_eq]
  split
  · exact twin_throw _
  · split
    · exact twin_throw _
    · split
      · exact twin_throw _
      · refine (twin_locate _ _ _).bind fun l => twin_get_bind fun t t' h => ?_
        rw [h.get?]
        split
        · exact twin_throw _
        · exact twin_set (h.put l _)

end Ops

end FileTree

end BundleWright
