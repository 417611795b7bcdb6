import BundleWright.Proofs.FileTree.Ways
import BundleWright.Proofs.Path.Order
/-!
What the operations on a tree do to it. Main statements: what each of them leaves when it succeeds;
directories are only added, where the paths above lead; and a path that can be named is never
refused as one that cannot.
-/
namespace BundleWright

namespace Path

theorem parent_induction {motive : Path → Prop}
    (h : ∀ p : Path, (p.parts ≠ [] → motive p.parent) → motive p) (p : Path) : motive p := by
  induction hn : p.parts.length generalizing p with
  | zero => exact h p fun hne => absurd (List.length_eq_zero_iff.1 hn) hne
  | succ n ih => exact h p fun _ => ih p.parent (by simp [hn])

theorem hasNull_parent {p : Path} (h : p.hasNull = false) : p.parent.hasNull = false := by
  simp only [hasNull, List.any_eq_false, parent_parts] at h ⊢
  exact fun c hc => h c ((List.dropLast_sublist _).subset hc)

end Path

def Fails {ε σ α : Type} (P : ε → Prop) (x : ExceptT ε (StateM σ) α) : Prop :=
  ∀ m e, (effect x m).1 = .error e → P e

namespace Fails

variable {ε σ α β : Type} {P : ε → Prop} {x : ExceptT ε (StateM σ) α}
  {f : α → ExceptT ε (StateM σ) β}

theorem of_pure (a : α) : Fails P (pure a : ExceptT ε (StateM σ) α) := nofun

theorem of_throw {e : ε} (h : P e) : Fails P (throw e : ExceptT ε (StateM σ) α) := by
  rintro m e' he
  cases he
  exact h

theorem of_set (s : σ) : Fails P (set s : ExceptT ε (StateM σ) PUnit) := nofun

theorem of_modify (k : σ → σ) : Fails P (modify k : ExceptT ε (StateM σ) PUnit) := nofun

theorem bind (h : Fails P x) (hf : ∀ a, Fails P (f a)) : Fails P (x >>= f) := by
  intro m e he
  rcases error_of_effect_bind he with he | ⟨a, m₁, -, he⟩
  · exact h m e he
  · exact hf a m₁ e he

theorem get_bind {f : σ → ExceptT ε (StateM σ) β} (hf : ∀ s, Fails P (f s)) :
    Fails P (get >>= f) := fun m e he => hf m m e he

theorem tryCatch {Q : ε → Prop} (h : Fails Q x) {k : ε → ExceptT ε (StateM σ) α}
    (hk : ∀ e, Q e → Fails P (k e)) : Fails P (tryCatch x k) := by
  intro m e he
  cases hx : effect x m with
  | mk result m₁ =>
    cases result with
    | error e' =>
      rw [effect_tryCatch_of_error hx] at he
      exact hk e' (h m e' (by rw [hx])) m₁ e he
    | ok a =>
      rw [effect_tryCatch_of_ok hx] at he
      cases he

theorem forM {as : List α} {step : α → ExceptT ε (StateM σ) PUnit}
    (h : ∀ a ∈ as, Fails P (step a)) : Fails P (as.forM step) := by
  induction as with
  | nil => exact of_pure _
  | cons a as ih =>
    exact (h a List.mem_cons_self).bind fun _ => ih fun x hx => h x (List.mem_cons_of_mem a hx)

end Fails

namespace FileTree

variable {t t' k : FileTree} {p : Path} {l : Location}

section Directories

theorem effect_ask {α : Type} (question : FileTree → Except FileError α) (t : FileTree) :
    effect (ask question) t = (question t, t) := by
  unfold ask
  rw [effect_bind_of_ok effect_get]
  cases question t <;> rfl

theorem effect_locate (reach : Reach) (p : Path) (refusal : Errno → FileError) (t : FileTree) :
    effect (locate reach p refusal) t =
      (if p.hasNull then .error .nullInPath else (t.resolve reach p).mapError refusal, t) :=
  effect_ask _ t

theorem exists_of_locate_bind {α : Type} {reach : Reach} {refusal : Errno → FileError}
    {f : Location → Op α} {a : α} (h : effect (locate reach p refusal >>= f) t = (.ok a, t')) :
    ∃ l, t.resolve reach p = .ok l ∧ effect (f l) t = (.ok a, t') := by
  obtain ⟨l, t₁, hlocate, h⟩ := exists_of_effect_bind h
  rw [effect_locate, Prod.mk.injEq] at hlocate
  obtain ⟨hl, rfl⟩ := hlocate
  split at hl
  · cases hl
  · cases hr : t.resolve reach p with
    | error e =>
      rw [hr] at hl
      cases hl
    | ok l' =>
      rw [hr] at hl
      cases hl
      exact ⟨_, rfl, h⟩

inductive MakesDir (t : FileTree) (p : Path) : Except FileError Unit → FileTree → Prop
  | unnamed : p.hasNull = true → MakesDir t p (.error .nullInPath) t
  | lost {e : Errno} : p.hasNull = false → t.resolve .entry p = .error e →
      MakesDir t p (.error (.refused e p.text)) t
  | taken {l : Location} : p.hasNull = false → t.resolve .entry p = .ok l → (t.get? l).isSome →
      MakesDir t p (.error (.refused .exists p.text)) t
  | made {l : Location} : p.hasNull = false → t.resolve .entry p = .ok l → t.get? l = none →
      MakesDir t p (.ok ()) (t.put l .dir)

theorem makesDir (t : FileTree) (p : Path) :
    MakesDir t p (effect (makeDir p) t).1 (effect (makeDir p) t).2 := by
  have hlocate := effect_locate .entry p (.refused · p.text) t
  unfold makeDir
  cases hn : p.hasNull with
  | true =>
    rw [hn, if_pos rfl] at hlocate
    rw [effect_bind_of_error hlocate]
    exact .unnamed hn
  | false =>
    rw [hn, if_neg Bool.false_ne_true] at hlocate
    cases hl : t.resolve .entry p with
    | error e =>
      rw [hl] at hlocate
      rw [effect_bind_of_error hlocate]
      exact .lost hn hl
    | ok l =>
      rw [hl] at hlocate
      rw [effect_bind_of_ok hlocate, effect_bind_of_ok effect_get]
      by_cases hsome : (t.get? l).isSome
      · rw [if_pos hsome]
        exact .taken hn hl hsome
      · rw [if_neg hsome]
        exact .made hn hl (Option.not_isSome_iff_eq_none.1 hsome)

inductive Readies (t : FileTree) (existing : Bool) (p : Path) :
    Except FileError Unit → FileTree → Prop
  | made {l : Location} : t.resolve .entry p = .ok l → t.get? l = none →
      Readies t existing p (.ok ()) (t.put l .dir)
  | kept : existing = true → Readies t existing p (.ok ()) t
  | failed {e : FileError} :
      (∀ path, e = .refused .noEntry path → t.resolve .entry p = .error .noEntry) →
        (e = .nullInPath → p.hasNull = true) → Readies t existing p (.error e) t

theorem map_status_eq_error {α : Type} {f : Option Entry → α} {e : FileError}
    (h : (t.status p).map f = .error e) : e = .refused .nameTooLong p.text := by
  unfold status at h
  split at h
  · cases h
  · split at h <;> cases h
    rfl

/-- A refusal that does not settle it is passed over where a directory is found and may be. -/
theorem readies_of_refusal (existing : Bool) {e : FileError}
    (hentry : ∀ path, e ≠ .refused .noEntry path) (hnull : e ≠ .nullInPath) {result t'}
    (h : effect (if existing then
        ask (·.isDir p) >>= fun there => if there then pure () else throw e
      else throw e) t = (result, t')) : Readies t existing p result t' := by
  cases existing with
  | false =>
    cases h
    exact .failed (fun path he => absurd he (hentry path)) fun he => absurd he hnull
  | true =>
    have hask := effect_ask (·.isDir p) t
    rw [if_pos rfl] at h
    cases hd : t.isDir p with
    | error e' =>
      rw [effect_bind_of_error (hask.trans (by rw [hd]))] at h
      cases h
      rw [map_status_eq_error hd]
      exact .failed nofun nofun
    | ok there =>
      rw [effect_bind_of_ok (hask.trans (by rw [hd]))] at h
      cases there with
      | true =>
        cases h
        exact .kept rfl
      | false =>
        cases h
        exact .failed (fun path he => absurd he (hentry path)) fun he => absurd he hnull

theorem readies {existing : Bool} {result : Except FileError Unit}
    (h : effect (makeDirUnless existing p) t = (result, t')) :
    Readies t existing p result t' := by
  unfold makeDirUnless at h
  have hmade := makesDir t p
  cases hx : effect (makeDir p) t with
  | mk result₁ t₁ =>
    rw [hx] at hmade
    cases hmade with
    | unnamed hn =>
      rw [effect_tryCatch_of_error hx] at h
      cases h
      exact .failed nofun fun _ => hn
    | @lost e hn hl =>
      rw [effect_tryCatch_of_error hx] at h
      by_cases he : e = .noEntry
      · subst he
        cases h
        exact .failed (fun _ _ => hl) nofun
      · have hne : ∀ path, FileError.refused e p.text ≠ .refused .noEntry path :=
          fun path heq => he (FileError.refused.inj heq).1
        refine readies_of_refusal existing hne nofun ?_
        cases e <;> first | exact h | exact absurd rfl he
    | taken hn hl hsome =>
      rw [effect_tryCatch_of_error hx] at h
      have hne : ∀ path, FileError.refused .exists p.text ≠ .refused .noEntry path :=
        fun path heq => nomatch (FileError.refused.inj heq).1
      exact readies_of_refusal existing hne nofun h
    | made hn hl hnone =>
      rw [effect_tryCatch_of_ok hx] at h
      cases h
      exact .made hl hnone

theorem makeDirs_eq (existing : Bool) (p : Path) : makeDirs existing p =
    tryCatch (makeDirUnless existing p) fun e =>
      match e with
      | .refused .noEntry _ =>
        if p.parts = [] then throw e
        else makeDirs true p.parent >>= fun _ => makeDirUnless existing p
      | _ => throw e :=
  makeDirs.eq_1 existing p

theorem exists_of_makeDirs {existing : Bool}
    (h : effect (makeDirs existing p) t = (.ok (), t')) :
    Readies t existing p (.ok ()) t' ∨ t.resolve .entry p = .error .noEntry ∧ p.parts ≠ [] ∧
      ∃ k, effect (makeDirs true p.parent) t = (.ok (), k) ∧ Readies k existing p (.ok ()) t' := by
  rw [makeDirs_eq] at h
  cases hx : effect (makeDirUnless existing p) t with
  | mk result t₁ =>
    have hready := readies hx
    cases result with
    | ok u =>
      rw [effect_tryCatch_of_ok hx] at h
      cases h
      exact .inl hready
    | error e =>
      rw [effect_tryCatch_of_error hx] at h
      cases hready with
      | failed hentry hnull =>
        split at h
        · next path =>
          split at h
          · cases h
          · next hne =>
            obtain ⟨_, k, hk, hlast⟩ := exists_of_effect_bind h
            exact .inr ⟨hentry path rfl, hne, k, hk, readies hlast⟩
        · cases h

end Directories

section Added

/-- Whether one tree has in addition to another one directories only, at new places of some kind. -/
structure Added (new : Location → Prop) (t t' : FileTree) : Prop where
  grows : t.Grows t'
  dir : ∀ {l e}, t.get? l = none → t'.get? l = some e → e = .dir ∧ new l

variable {new new' : Location → Prop}

theorem Added.refl (t : FileTree) : Added new t t :=
  ⟨.refl t, fun hnone he => nomatch hnone.symm.trans he⟩

theorem Added.trans (h : Added new t k) (h' : Added new k t') : Added new t t' := by
  refine ⟨h.grows.trans h'.grows, fun {l e} hnone he => ?_⟩
  cases hk : k.get? l with
  | none => exact h'.dir hk he
  | some e' =>
    cases (h'.grows.get? hk).symm.trans he
    exact h.dir hnone hk

theorem Added.mono (h : Added new t t') (hnew : ∀ l, new l → new' l) : Added new' t t' :=
  ⟨h.grows, fun hnone he => (h.dir hnone he).imp_right (hnew _)⟩

theorem Added.put (hl : t.get? l = none) (hnew : new l) : Added new t (t.put l .dir) := by
  refine ⟨.put hl .dir, fun {l' e} hnone he => ?_⟩
  by_cases hne : l = l'
  · subst hne
    rw [get?_put_self _ _ (by rintro rfl; cases (get?_nil t).symm.trans hl)] at he
    cases he
    exact ⟨rfl, hnew⟩
  · rw [get?_put_of_ne _ _ hne] at he
    cases hnone.symm.trans he

theorem Added.get?_of_not (h : Added new t t') (hl : ¬new l) : t'.get? l = t.get? l := by
  cases hl' : t'.get? l with
  | none =>
    cases ht : t.get? l with
    | none => rfl
    | some e => cases (h.grows.get? ht).symm.trans hl'
  | some e =>
    cases ht : t.get? l with
    | none => exact absurd (h.dir ht hl').2 hl
    | some e' => rw [← h.grows.get? ht, hl']

theorem WellFormed.put (h : t.WellFormed) (hl : t.get? l = none)
    (habove : t.get? l.dropLast = some .dir) : (t.put l .dir).WellFormed := by
  have hg := Grows.put hl .dir
  refine ⟨fun {l' c} hsome => ?_, hg.get? h.workDir⟩
  by_cases he : l = l' ++ [c]
  · subst he
    rw [List.dropLast_concat] at habove
    exact hg.get? habove
  · rw [get?_put_of_ne _ _ he] at hsome
    exact hg.get? (h.above hsome)

structure Made (paths : List Path) (t t' : FileTree) : Prop
    extends Added (fun l => ∃ q ∈ paths, t'.resolve .entry q = .ok l) t t' where
  wellFormed : t.WellFormed → t'.WellFormed

variable {paths paths' : List Path}

theorem Made.refl (t : FileTree) : Made paths t t := ⟨.refl t, id⟩

theorem Made.trans (h : Made paths t k) (h' : Made paths k t') : Made paths t t' := by
  refine ⟨.trans (h.toAdded.mono fun l hl => ?_) h'.toAdded, h'.wellFormed ∘ h.wellFormed⟩
  obtain ⟨q, hq, hl⟩ := hl
  exact ⟨q, hq, h'.grows.resolve hl (.inl rfl)⟩

theorem Made.mono (h : Made paths t t') (hsub : paths ⊆ paths') : Made paths' t t' :=
  ⟨h.toAdded.mono fun _ hl => hl.imp fun _ hq => ⟨hsub hq.1, hq.2⟩, h.wellFormed⟩

theorem Readies.made_singleton {existing : Bool} {result : Except FileError Unit}
    (h : Readies t existing p result t') : Made [p] t t' := by
  cases h with
  | made hl hnone =>
    exact ⟨.put hnone ⟨p, List.mem_singleton_self p, (Grows.put hnone _).resolve hl (.inl rfl)⟩,
      fun hw => hw.put hnone (hw.dropLast_of_resolve hl)⟩
  | kept _ => exact .refl t
  | failed _ _ => exact .refl t

theorem keeps_makeDirUnless (existing : Bool) (p : Path) :
    Keeps (Made [p]) (makeDirUnless existing p) :=
  fun _ => (readies rfl).made_singleton

theorem keeps_makeDirs (existing : Bool) (p : Path) :
    Keeps (Made p.lineage) (makeDirs existing p) := by
  induction p using Path.parent_induction generalizing existing with
  | h p ih =>
    have hself (existing : Bool) : Keeps (Made p.lineage) (makeDirUnless existing p) :=
      fun t => (keeps_makeDirUnless existing p t).mono fun q hq => by
        rw [List.mem_singleton.1 hq]
        exact Path.mem_lineage_iff.2 ⟨rfl, List.prefix_refl _⟩
    rw [makeDirs_eq]
    refine (hself existing).tryCatch (fun _ _ _ => .trans) fun e => ?_
    split
    · split
      · exact keeps_throw Made.refl _
      · next hne =>
        have habove : Keeps (Made p.lineage) (makeDirs true p.parent) :=
          fun t => (ih hne true t).mono fun q hq => by
            rw [Path.lineage_of_ne_nil hne]
            exact List.mem_cons_of_mem p hq
        exact habove.bind (fun _ _ _ => .trans) fun _ => hself existing
    · exact keeps_throw Made.refl _

/-- A new directory is made where its path leads once those above have been. -/
theorem exists_of_makeDirs_new (h : effect (makeDirs false p) t = (.ok (), t')) :
    ∃ k l, Made p.parent.lineage t k ∧ k.resolve .entry p = .ok l ∧ k.get? l = none ∧
      t' = k.put l .dir ∧ (k = t ∨ t.resolve .entry p = .error .noEntry) := by
  rcases exists_of_makeDirs h with hready | ⟨hno, _, k, hk, hready⟩
  · cases hready with
    | made hl hnone => exact ⟨t, _, .refl t, hl, hnone, rfl, .inl rfl⟩
    | kept hex => cases hex
  · have hmade := keeps_makeDirs true p.parent t
    rw [hk] at hmade
    cases hready with
    | made hl hnone => exact ⟨k, _, hmade, hl, hnone, rfl, .inr hno⟩
    | kept hex => cases hex

theorem fails_makeDirUnless (existing : Bool) (hp : p.hasNull = false) :
    Fails (· ≠ .nullInPath) (makeDirUnless existing p) := by
  intro t e he
  cases hx : effect (makeDirUnless existing p) t with
  | mk result t' =>
    rw [hx] at he
    cases he
    cases readies hx with
    | failed _ hnull => exact fun h => Bool.false_ne_true (hp.symm.trans (hnull h))

theorem fails_makeDirs (existing : Bool) (hp : p.hasNull = false) :
    Fails (· ≠ .nullInPath) (makeDirs existing p) := by
  induction p using Path.parent_induction generalizing existing with
  | h p ih =>
    rw [makeDirs_eq]
    refine (fails_makeDirUnless existing hp).tryCatch fun e he => ?_
    split
    · split
      · exact .of_throw he
      · next hne =>
        exact (ih hne true (Path.hasNull_parent hp)).bind fun _ => fails_makeDirUnless existing hp
    · exact .of_throw he

end Added

section Removal

theorem lookup_filter_of_pos {keep : Location × Entry → Bool} {entries : List (Location × Entry)}
    (h : ∀ e, keep (l, e) = true) : (entries.filter keep).lookup l = entries.lookup l := by
  induction entries with
  | nil => rfl
  | cons x rest ih =>
    obtain ⟨l', e⟩ := x
    by_cases hl : l = l'
    · subst hl
      rw [List.filter_cons_of_pos (h e), List.lookup_cons_self, List.lookup_cons_self]
    · have hne : (l == l') = false := beq_false_of_ne hl
      rw [List.lookup_cons, hne, ← ih]
      by_cases hk : keep (l', e) = true
      · rw [List.filter_cons_of_pos hk, List.lookup_cons, hne]
      · rw [List.filter_cons_of_neg hk]

theorem lookup_filter_of_neg {keep : Location × Entry → Bool} {entries : List (Location × Entry)}
    (h : ∀ e, keep (l, e) = false) : (entries.filter keep).lookup l = none := by
  refine List.lookup_eq_none_iff.2 fun x hx => bne_iff_ne.2 ?_
  rintro rfl
  exact Bool.false_ne_true ((h x.2).symm.trans (List.mem_filter.1 hx).2)

variable {l' : Location}

theorem isPrefixOf_eq_false (h : ¬l <+: l') : l.isPrefixOf l' = false :=
  Bool.eq_false_iff.2 fun h' => h (List.isPrefixOf_iff_prefix.1 h')

theorem get?_erase_of_not (h : ¬l <+: l') : (t.erase l).get? l' = t.get? l' := by
  unfold get? erase
  rw [lookup_filter_of_pos fun e => by simp [isPrefixOf_eq_false h]]

theorem get?_erase_of_mem (h : l <+: l') (hne : l' ≠ []) : (t.erase l).get? l' = none := by
  unfold get? erase
  rw [if_neg hne, lookup_filter_of_neg fun e => by simp [h]]

theorem get?_clear_of_not (h : ¬l <+: l') : (t.clear l).get? l' = t.get? l' := by
  unfold get? clear
  rw [lookup_filter_of_pos fun e => by simp [isPrefixOf_eq_false h]]

theorem get?_clear_self : (t.clear l).get? l = t.get? l := by
  unfold get? clear
  rw [lookup_filter_of_pos fun e => by simp]

theorem get?_clear_of_below (h : l <+: l') (hne : l' ≠ l) : (t.clear l).get? l' = none := by
  have hnil : l' ≠ [] := by
    rintro rfl
    exact hne (List.prefix_nil.1 h).symm
  unfold get? clear
  rw [if_neg hnil, lookup_filter_of_neg fun e => by simp [h, hne]]

theorem grows_clear (t : FileTree) (l : Location) : (t.clear l).Grows t := by
  refine ⟨fun {l' e} he => ?_, rfl⟩
  by_cases hp : l <+: l'
  · by_cases hne : l' = l
    · rw [← he, hne, get?_clear_self]
    · cases (get?_clear_of_below hp hne).symm.trans he
  · rwa [get?_clear_of_not hp] at he

theorem erase_clear (t : FileTree) (l : Location) : (t.clear l).erase l = t.erase l := by
  unfold erase clear
  simp only [List.filter_filter]
  congr 2
  funext x
  cases l.isPrefixOf x.1 <;> simp

/-- What is removed is the directory that the path leads to, and the path still leads there when all
that was in it is gone. -/
theorem exists_of_removeTree (h : effect (removeTree p) t = (.ok (), t')) :
    ∃ l, t.resolve .entry p = .ok l ∧ t.get? l = some .dir ∧
      (t.clear l).resolve .entry p = .ok l ∧ t' = t.erase l := by
  unfold removeTree at h
  obtain ⟨l, hl, h⟩ := exists_of_locate_bind h
  rw [effect_bind_of_ok effect_get] at h
  split at h
  · cases h
  · cases h
  · cases h
  · next hdir =>
    rw [effect_bind_of_ok effect_set] at h
    obtain ⟨l', hl', h⟩ := exists_of_locate_bind h
    obtain rfl := Except.ok.inj (((grows_clear t l).resolve hl' (.inl rfl)).symm.trans hl)
    refine ⟨l', hl, hdir, hl', ?_⟩
    split at h
    · cases h
    · cases h
    · cases h
      exact erase_clear _ _

theorem fails_locate (reach : Reach) (hp : p.hasNull = false) (f : Errno → FileError)
    (hf : ∀ e, f e ≠ .nullInPath) : Fails (· ≠ .nullInPath) (locate reach p f) := by
  intro t e he
  rw [effect_locate, hp] at he
  cases hl : t.resolve reach p with
  | error e' =>
    rw [hl] at he
    cases he
    exact hf e'
  | ok l =>
    rw [hl] at he
    cases he

theorem fails_removeTree (hp : p.hasNull = false) :
    Fails (· ≠ .nullInPath) (removeTree p) := by
  have hlocate := fails_locate .entry hp (.refused · p.text) fun _ => nofun
  unfold removeTree
  refine hlocate.bind fun l => .get_bind fun t => ?_
  split
  · exact .of_throw nofun
  · exact .of_throw nofun
  · exact .of_throw nofun
  · refine (Fails.of_set _).bind fun _ => hlocate.bind fun l => ?_
    split
    · exact .of_throw nofun
    · exact .of_throw nofun
    · exact .of_modify _

end Removal

section Copies

variable {source dest : Path}

def lastPiece (p : Path) : String :=
  String.ofList ((Text.splitOn '/' p.text.toList).getLast?.getD [])

def copyDest (t : FileTree) (source dest : Path) : Path :=
  if t.status? dest == some .dir then dest / lastPiece source else dest

def copyShown (t : FileTree) (source dest : Path) : String :=
  if t.status? dest == some .dir then dest.text ++ "/" ++ lastPiece source else dest.text

def found? (t : FileTree) (p : Path) : Option Location :=
  match t.resolve .target p with
  | .ok l => if (t.get? l).isSome then some l else none
  | .error _ => none

def copyText (source dest : Path) (shown : String) (before : Option Entry) : Op Unit := do
  let text ← readText source
  tryCatch (writeText dest text shown) fun e =>
    match e, before with
    | .refused .isDirectory _, none => throw (.noDirectory shown)
    | e, _ => throw e

theorem copyFile_eq (source dest : Path) : copyFile source dest = get >>= fun t =>
    if source.hasNull || (t.copyDest source dest).hasNull then throw .nullInPath
    else if (t.found? source).isSome && t.found? source == t.found? (t.copyDest source dest) then
      throw (.sameFile source.text (t.copyShown source dest) (!(t.status? dest == some .dir)))
    else
      copyText source (t.copyDest source dest) (t.copyShown source dest)
        (t.status? (t.copyDest source dest)) := by
  unfold copyFile
  refine congrArg _ (funext fun t => ?_)
  extract_lets into name dest' shown place
  have hdest : t.copyDest source dest = dest' := rfl
  have hshown : t.copyShown source dest = shown := rfl
  have hfound : t.found? = place := rfl
  rw [hdest, hshown, hfound]
  clear_value dest' shown place
  split
  · rfl
  · change (if _ then _ else _) = _
    split
    · rfl
    · rfl

theorem exists_of_readText {shown text : String}
    (h : effect (readText p shown) t = (.ok text, t')) :
    t' = t ∧ t.status? p = some (.file text) := by
  unfold readText at h
  obtain ⟨l, hl, h⟩ := exists_of_locate_bind h
  rw [effect_bind_of_ok effect_get] at h
  split at h
  · next he =>
    cases h
    exact ⟨rfl, status?_eq_some_iff.2 ⟨l, hl, he⟩⟩
  · cases h
  · cases h

theorem exists_of_writeText {shown text : String}
    (h : effect (writeText p text shown) t = (.ok (), t')) :
    ∃ l, t.resolve .creation p = .ok l ∧ t.get? l ≠ some .dir ∧ t' = t.put l (.file text) := by
  unfold writeText at h
  obtain ⟨l, hl, h⟩ := exists_of_locate_bind h
  rw [effect_bind_of_ok effect_get] at h
  split at h
  · cases h
  · next hne =>
    cases h
    exact ⟨l, hl, hne, rfl⟩

theorem exists_of_copyFile (h : effect (copyFile source dest) t = (.ok (), t')) :
    ∃ text l, t.status? source = some (.file text) ∧
      t.resolve .creation (t.copyDest source dest) = .ok l ∧ t.get? l ≠ some .dir ∧
        t' = t.put l (.file text) := by
  rw [copyFile_eq, effect_bind_of_ok effect_get] at h
  split at h
  · cases h
  · split at h
    · cases h
    · unfold copyText at h
      obtain ⟨text, k, htext, h⟩ := exists_of_effect_bind h
      obtain ⟨rfl, hsource⟩ := exists_of_readText htext
      cases hw : effect (writeText (k.copyDest source dest) text (k.copyShown source dest)) k with
      | mk result k' =>
        cases result with
        | ok u =>
          rw [effect_tryCatch_of_ok hw] at h
          cases h
          obtain ⟨l, hl, hne, rfl⟩ := exists_of_writeText hw
          exact ⟨text, l, hsource, hl, hne, rfl⟩
        | error e =>
          rw [effect_tryCatch_of_error hw] at h
          split at h <;> cases h

theorem lastPiece_cases (p : Path) :
    lastPiece p ∈ p.parts ∨ lastPiece p = "" ∨ lastPiece p = "." := by
  obtain ⟨w, hw⟩ : ∃ w, (Text.splitOn '/' p.text.toList).getLast? = some w :=
    Option.isSome_iff_exists.1 (List.getLast?_isSome.2 (Text.splitOn_ne_nil _ _))
  have hparts : p.parts = Path.components p.text.toList :=
    congrArg Path.parts (Path.ofString_text p).symm
  unfold lastPiece
  rw [hw, Option.getD_some, hparts]
  cases hk : Path.keeps w with
  | true =>
    exact .inl (List.mem_map_of_mem (List.mem_filter.2 ⟨List.mem_of_getLast? hw, hk⟩))
  | false =>
    have hw' : w = [] ∨ w = ['.'] := by
      simp only [Path.keeps, Bool.and_eq_false_iff, bne_eq_false_iff_eq] at hk
      exact hk
    exact .inr (hw'.imp (fun h => by rw [h]) fun h => by rw [h])

theorem copyDest_cases (t : FileTree) (source dest : Path) : t.copyDest source dest = dest ∨
    t.status? dest = some .dir ∧ ∃ w ∈ source.parts, (t.copyDest source dest).root = dest.root ∧
      (t.copyDest source dest).parts = dest.parts ++ [w] := by
  unfold copyDest
  split
  · next hdir =>
    have hself {w : String} (hroot : (Path.ofString w).root = .none)
        (hparts : (Path.ofString w).parts = []) : (dest / w : Path) = dest := by
      refine Path.ext_iff'.2 ⟨Path.join_root_of_relative hroot, ?_⟩
      exact (Path.join_parts_of_relative hroot).trans (by rw [hparts, List.append_nil])
    rcases lastPiece_cases source with hw | hw | hw
    · have hc := source.proper _ hw
      exact .inr ⟨eq_of_beq hdir, _, hw, Path.root_div_component hc, Path.parts_div_component hc⟩
    · exact .inl (hself (by rw [hw]; decide) (by rw [hw]; decide))
    · exact .inl (hself (by rw [hw]; decide) (by rw [hw]; decide))
  · exact .inl rfl

theorem hasNull_copyDest (hs : source.hasNull = false) (hd : dest.hasNull = false) :
    (t.copyDest source dest).hasNull = false := by
  rcases copyDest_cases t source dest with he | ⟨-, w, hw, -, hparts⟩
  · rwa [he]
  · unfold Path.hasNull at hs hd ⊢
    have hnull := List.any_eq_false.1 hs w hw
    rw [hparts, List.any_append, hd]
    simpa using hnull

theorem fails_readText (hp : p.hasNull = false) (shown : String) :
    Fails (· ≠ .nullInPath) (readText p shown) := by
  unfold readText
  refine (fails_locate .target hp (.refused · shown) fun _ => nofun).bind fun l =>
    .get_bind fun t => ?_
  split
  · exact .of_pure _
  · exact .of_throw nofun
  · exact .of_throw nofun

theorem fails_writeText (hp : p.hasNull = false) (text shown : String) :
    Fails (· ≠ .nullInPath) (writeText p text shown) := by
  unfold writeText
  refine (fails_locate .creation hp (.refused · shown) fun _ => nofun).bind fun l =>
    .get_bind fun t => ?_
  split
  · exact .of_throw nofun
  · exact .of_set _

theorem fails_copyFile (hs : source.hasNull = false) (hd : dest.hasNull = false) :
    Fails (· ≠ .nullInPath) (copyFile source dest) := by
  rw [copyFile_eq]
  refine .get_bind fun t => ?_
  have hcopy := hasNull_copyDest (t := t) hs hd
  rw [hs, hcopy, Bool.or_false, if_neg Bool.false_ne_true]
  split
  · exact .of_throw nofun
  · refine (fails_readText hs _).bind fun text =>
      (fails_writeText hcopy text _).tryCatch fun e he => ?_
    split
    · exact .of_throw nofun
    · exact .of_throw he

end Copies

section Linking

variable {target : String} {link : Path}

theorem makeLink_eq (target : String) (link : Path) : makeLink target link =
    if target.toList.contains Path.null || link.hasNull then throw .nullInPath
    else if target = "" then throw (.linking .noEntry target link.text)
    else if longestPath < target.utf8ByteSize then
      throw (.linking .nameTooLong target link.text)
    else
      locate .entry link (.linking · target link.text) >>= fun l => get >>= fun t =>
        if (t.get? l).isSome then throw (.linking .exists target link.text)
        else set (t.put l (.link target)) := by
  unfold makeLink
  extract_lets refusal
  split
  · rfl
  · change (if _ then _ else _) = _
    split
    · rfl
    · change (if _ then _ else _) = _
      split
      · rfl
      · rfl

theorem exists_of_makeLink (h : effect (makeLink target link) t = (.ok (), t')) :
    ∃ l, t.resolve .entry link = .ok l ∧ t.get? l = none ∧ t' = t.put l (.link target) := by
  rw [makeLink_eq] at h
  split at h
  · cases h
  · split at h
    · cases h
    · split at h
      · cases h
      · obtain ⟨l, hl, h⟩ := exists_of_locate_bind h
        rw [effect_bind_of_ok effect_get] at h
        split at h
        · cases h
        · next hnone =>
          cases h
          exact ⟨l, hl, Option.not_isSome_iff_eq_none.1 hnone, rfl⟩

theorem fails_makeLink (ht : target.toList.contains Path.null = false)
    (hl : link.hasNull = false) : Fails (· ≠ .nullInPath) (makeLink target link) := by
  rw [makeLink_eq, ht, hl, Bool.or_false, if_neg Bool.false_ne_true]
  split
  · exact .of_throw nofun
  · split
    · exact .of_throw nofun
    · refine (fails_locate .entry hl (.linking · target link.text) fun _ => nofun).bind fun l =>
        .get_bind fun t => ?_
      split
      · exact .of_throw nofun
      · exact .of_set _

end Linking

end FileTree

end BundleWright
