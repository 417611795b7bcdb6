import BundleWright.Execution
/-!
Steps that are done one after another and can fail. Main statements: steps over a list are all done,
or one of them fails after those before it are done, and then what comes after it makes no
difference; and an action runs no tool but its own.
-/
namespace BundleWright

section Effects

variable {ε σ α β : Type}

/-- What a step gives on a state, and the state it leaves. -/
def effect (x : ExceptT ε (StateM σ) α) (m : σ) : Except ε α × σ := x.run.run m

variable {x : ExceptT ε (StateM σ) α} {f : α → ExceptT ε (StateM σ) β} {m m' : σ}

@[simp] theorem effect_pure (a : α) :
    effect (pure a : ExceptT ε (StateM σ) α) m = (.ok a, m) := rfl

@[simp] theorem effect_throw (e : ε) :
    effect (throw e : ExceptT ε (StateM σ) α) m = (.error e, m) := rfl

@[simp] theorem effect_get : effect (get : ExceptT ε (StateM σ) σ) m = (.ok m, m) := rfl

@[simp] theorem effect_set : effect (set m' : ExceptT ε (StateM σ) PUnit) m = (.ok ⟨⟩, m') := rfl

@[simp] theorem effect_modify (k : σ → σ) :
    effect (modify k : ExceptT ε (StateM σ) PUnit) m = (.ok ⟨⟩, k m) := rfl

@[simp] theorem effect_modifyGet (k : σ → α × σ) :
    effect (modifyGet k : ExceptT ε (StateM σ) α) m = (.ok (k m).1, (k m).2) := rfl

theorem effect_bind_of_ok {a : α} (h : effect x m = (.ok a, m')) :
    effect (x >>= f) m = effect (f a) m' := by
  unfold effect at h ⊢
  simp only [ExceptT.run_bind, StateT.run_bind]
  rw [h]
  rfl

theorem effect_bind_of_error {e : ε} (h : effect x m = (.error e, m')) :
    effect (x >>= f) m = (.error e, m') := by
  unfold effect at h ⊢
  simp only [ExceptT.run_bind, StateT.run_bind]
  rw [h]
  rfl

theorem exists_of_effect_bind {b : β} (h : effect (x >>= f) m = (.ok b, m')) :
    ∃ a m₁, effect x m = (.ok a, m₁) ∧ effect (f a) m₁ = (.ok b, m') := by
  cases hx : effect x m with
  | mk result m₁ =>
    cases result with
    | error e =>
      rw [effect_bind_of_error hx] at h
      cases h
    | ok a =>
      rw [effect_bind_of_ok hx] at h
      exact ⟨a, m₁, rfl, h⟩

theorem error_of_effect_bind {e : ε} (h : (effect (x >>= f) m).1 = .error e) :
    (effect x m).1 = .error e ∨ ∃ a m₁, effect x m = (.ok a, m₁) ∧
      (effect (f a) m₁).1 = .error e := by
  cases hx : effect x m with
  | mk result m₁ =>
    cases result with
    | error e' =>
      rw [effect_bind_of_error hx] at h
      cases h
      exact .inl rfl
    | ok a =>
      rw [effect_bind_of_ok hx] at h
      exact .inr ⟨a, m₁, rfl, h⟩

theorem effect_bind_congr {y : ExceptT ε (StateM σ) α} (h : effect x m = effect y m)
    (f : α → ExceptT ε (StateM σ) β) : effect (x >>= f) m = effect (y >>= f) m := by
  cases hy : effect y m with
  | mk result m₁ =>
    cases result with
    | error e => rw [effect_bind_of_error (h.trans hy), effect_bind_of_error hy]
    | ok a => rw [effect_bind_of_ok (h.trans hy), effect_bind_of_ok hy]

theorem effect_tryCatch_of_ok {a : α} {k : ε → ExceptT ε (StateM σ) α}
    (h : effect x m = (.ok a, m')) : effect (tryCatch x k) m = (.ok a, m') := by
  unfold effect at h ⊢
  simp only [ExceptT.run_tryCatch, StateT.run_bind]
  rw [h]
  rfl

theorem effect_tryCatch_of_error {e : ε} {k : ε → ExceptT ε (StateM σ) α}
    (h : effect x m = (.error e, m')) : effect (tryCatch x k) m = effect (k e) m' := by
  unfold effect at h ⊢
  simp only [ExceptT.run_tryCatch, StateT.run_bind]
  rw [h]
  rfl

/-- Steps that succeed one after another: what they give, and the state they lead to. -/
inductive Chain (step : α → ExceptT ε (StateM σ) β) : List α → σ → List β → σ → Prop
  | nil {m : σ} : Chain step [] m [] m
  | cons {a : α} {as : List α} {b : β} {bs : List β} {m m₁ m' : σ} :
      effect (step a) m = (.ok b, m₁) → Chain step as m₁ bs m' →
        Chain step (a :: as) m (b :: bs) m'

namespace Chain

variable {step : α → ExceptT ε (StateM σ) β} {as : List α} {bs : List β} {a : α} {e : ε} {m₁ : σ}

/-- All steps are done, or one fails when those before it are done. -/
theorem exists_or_stops (step : α → ExceptT ε (StateM σ) β) (as : List α) (m : σ) :
    (∃ bs m', Chain step as m bs m') ∨ ∃ before a after bs m₁ e m', as = before ++ a :: after ∧
      Chain step before m bs m₁ ∧ effect (step a) m₁ = (.error e, m') := by
  induction as generalizing m with
  | nil => exact .inl ⟨[], m, .nil⟩
  | cons a as ih =>
    cases h : effect (step a) m with
    | mk result m₁ =>
      cases result with
      | error e => exact .inr ⟨[], a, as, [], m, e, m₁, rfl, .nil, h⟩
      | ok b =>
        rcases ih m₁ with ⟨bs, m', hc⟩ | ⟨before, x, after, bs, m₂, e, m', rfl, hc, hx⟩
        · exact .inl ⟨b :: bs, m', .cons h hc⟩
        · exact .inr ⟨a :: before, x, after, b :: bs, m₂, e, m', rfl, .cons h hc, hx⟩

theorem effect_mapM (h : Chain step as m bs m') : effect (as.mapM step) m = (.ok bs, m') := by
  induction h with
  | nil => rfl
  | cons ha _ ih =>
    rw [List.mapM_cons, effect_bind_of_ok ha, effect_bind_of_ok ih]
    rfl

theorem effect_mapM_of_error (h : Chain step as m bs m₁)
    (ha : effect (step a) m₁ = (.error e, m')) (rest : List α) :
    effect ((as ++ a :: rest).mapM step) m = (.error e, m') := by
  induction h with
  | nil => rw [List.nil_append, List.mapM_cons, effect_bind_of_error ha]
  | cons hx _ ih =>
    rw [List.cons_append, List.mapM_cons, effect_bind_of_ok hx, effect_bind_of_error (ih ha)]

theorem effect_forM {step : α → ExceptT ε (StateM σ) PUnit} {bs : List PUnit}
    (h : Chain step as m bs m') : effect (as.forM step) m = (.ok ⟨⟩, m') := by
  induction h with
  | nil => rfl
  | cons ha _ ih => exact (effect_bind_of_ok ha).trans ih

theorem effect_forM_of_error {step : α → ExceptT ε (StateM σ) PUnit} {bs : List PUnit}
    (h : Chain step as m bs m₁) (ha : effect (step a) m₁ = (.error e, m')) (rest : List α) :
    effect ((as ++ a :: rest).forM step) m = (.error e, m') := by
  induction h with
  | nil => exact effect_bind_of_error ha
  | cons hx _ ih => exact (effect_bind_of_ok hx).trans (ih ha)

end Chain

/-- Whether a step leaves every state in a relation to the one before it, also when it fails. -/
def Keeps (R : σ → σ → Prop) (x : ExceptT ε (StateM σ) α) : Prop := ∀ m, R m (effect x m).2

section Keeps

variable {R : σ → σ → Prop} (hrefl : ∀ m, R m m)
  (htrans : ∀ m m₁ m', R m m₁ → R m₁ m' → R m m')

include hrefl in
theorem keeps_pure (a : α) : Keeps R (pure a : ExceptT ε (StateM σ) α) := fun m => hrefl m

include hrefl in
theorem keeps_throw (e : ε) : Keeps R (throw e : ExceptT ε (StateM σ) α) := fun m => hrefl m

include htrans in
theorem Keeps.bind (h : Keeps R x) (hf : ∀ a, Keeps R (f a)) : Keeps R (x >>= f) := by
  intro m
  have hx := h m
  cases hr : effect x m with
  | mk result m₁ =>
    rw [hr] at hx
    cases result with
    | error e => rwa [effect_bind_of_error hr]
    | ok a =>
      rw [effect_bind_of_ok hr]
      exact htrans m m₁ _ hx (hf a m₁)

include htrans in
theorem Keeps.tryCatch (h : Keeps R x) {k : ε → ExceptT ε (StateM σ) α} (hk : ∀ e, Keeps R (k e)) :
    Keeps R (tryCatch x k) := by
  intro m
  have hx := h m
  cases hr : effect x m with
  | mk result m₁ =>
    rw [hr] at hx
    cases result with
    | error e =>
      rw [effect_tryCatch_of_error hr]
      exact htrans m m₁ _ hx (hk e m₁)
    | ok a => rwa [effect_tryCatch_of_ok hr]

include hrefl htrans in
theorem keeps_forM {as : List α} {step : α → ExceptT ε (StateM σ) PUnit}
    (h : ∀ a ∈ as, Keeps R (step a)) : Keeps R (as.forM step) := by
  induction as with
  | nil => exact keeps_pure hrefl _
  | cons a as ih =>
    exact (h a List.mem_cons_self).bind htrans fun _ =>
      ih fun x hx => h x (List.mem_cons_of_mem a hx)

include hrefl htrans in
theorem keeps_mapM {as : List α} (h : ∀ a ∈ as, Keeps R (f a)) : Keeps R (as.mapM f) := by
  induction as with
  | nil => exact keeps_pure hrefl _
  | cons a as ih =>
    rw [List.mapM_cons]
    exact (h a List.mem_cons_self).bind htrans fun _ =>
      (ih fun x hx => h x (List.mem_cons_of_mem a hx)).bind htrans fun _ => keeps_pure hrefl _

end Keeps

end Effects

namespace Machine

structure Ran (m : Machine) (ran : List ToolCall) (m' : Machine) : Prop where
  calls : m'.calls = m.calls ++ ran
  tools : m'.tools = m.tools.drop ran.length

namespace Ran

variable {m m₁ m' : Machine} {ran ran' : List ToolCall}

theorem refl (m : Machine) : m.Ran [] m := ⟨(List.append_nil _).symm, rfl⟩

theorem trans (h : m.Ran ran m₁) (h' : m₁.Ran ran' m') : m.Ran (ran ++ ran') m' := by
  constructor
  · rw [h'.calls, h.calls, List.append_assoc]
  · rw [h'.tools, h.tools, List.drop_drop, List.length_append]

end Ran

end Machine

namespace Run

variable {α β : Type} {r : Run α} {f : α → Run β} {ran ran' : List ToolCall} {m m' : Machine}

/-- Whether a step runs the given tools in their order: all of them when it succeeds, and only the
first few of them when it fails. -/
def Starts (r : Run α) (ran : List ToolCall) : Prop :=
  ∀ m : Machine, ∃ started, started <+: ran ∧ m.Ran started (effect r m).2 ∧
    ((effect r m).1.toOption.isSome = true → started = ran)

theorem Starts.ran_of_ok (h : Starts r ran) {a : α} (hr : effect r m = (.ok a, m')) :
    m.Ran ran m' := by
  obtain ⟨started, _, hran, hall⟩ := h m
  rw [hr] at hran hall
  exact hall rfl ▸ hran

theorem Starts.exists_ran (h : Starts r ran) {result : Except RunError α}
    (hr : effect r m = (result, m')) : ∃ started, started <+: ran ∧ m.Ran started m' := by
  obtain ⟨started, hpre, hran, _⟩ := h m
  exact ⟨started, hpre, by rwa [hr] at hran⟩

theorem Starts.bind (h : Starts r ran) (hf : ∀ a, Starts (f a) ran') :
    Starts (r >>= f) (ran ++ ran') := by
  intro m
  obtain ⟨started, hpre, hran, hall⟩ := h m
  cases hr : effect r m with
  | mk result m₁ =>
    rw [hr] at hran hall
    cases result with
    | error e =>
      rw [effect_bind_of_error hr]
      exact ⟨started, hpre.trans (List.prefix_append _ _), hran, nofun⟩
    | ok a =>
      obtain rfl := hall rfl
      obtain ⟨started', hpre', hran', hall'⟩ := hf a m₁
      rw [effect_bind_of_ok hr]
      exact ⟨started ++ started', (List.prefix_append_right_inj _).2 hpre', hran.trans hran',
        fun hok => by rw [hall' hok]⟩

theorem starts_pure (a : α) : Starts (pure a) [] :=
  fun m => ⟨[], List.prefix_refl _, .refl m, fun _ => rfl⟩

theorem starts_forM {l : List α} {f : α → Run PUnit} {ran : α → List ToolCall}
    (h : ∀ a ∈ l, Starts (f a) (ran a)) : Starts (l.forM f) (l.flatMap ran) := by
  induction l with
  | nil => exact starts_pure _
  | cons a l ih =>
    rw [List.flatMap_cons]
    exact (h a List.mem_cons_self).bind fun _ => ih fun x hx => h x (List.mem_cons_of_mem a hx)

theorem starts_mapM {l : List α} {ran : α → List ToolCall} (h : ∀ a ∈ l, Starts (f a) (ran a)) :
    Starts (l.mapM f) (l.flatMap ran) := by
  induction l with
  | nil => exact starts_pure _
  | cons a l ih =>
    rw [List.flatMap_cons, List.mapM_cons]
    refine (h a List.mem_cons_self).bind fun b => ?_
    have hrest := (ih fun x hx => h x (List.mem_cons_of_mem a hx)).bind fun bs =>
      starts_pure (b :: bs)
    rwa [List.append_nil] at hrest

theorem effect_onTree (wrap : FileError → RunError) (op : FileTree.Op α) (m : Machine) :
    (effect (onTree wrap op) m).2 = { m with tree := (effect op m.tree).2 } := by
  unfold onTree
  rw [effect_bind_of_ok effect_get]
  cases h : effect op m.tree with
  | mk result tree =>
    have hrun : op.run.run m.tree = (result, tree) := h
    simp only [hrun]
    rw [effect_bind_of_ok effect_set]
    cases result with
    | ok a => rfl
    | error e => cases e <;> rfl

def Quiet (r : Run α) : Prop := Keeps (fun m m' : Machine => m.Ran [] m') r

theorem starts_nil_iff : Starts r [] ↔ Quiet r := by
  constructor
  · intro h m
    obtain ⟨started, hpre, hran, _⟩ := h m
    rwa [List.prefix_nil.1 hpre] at hran
  · exact fun h m => ⟨[], List.prefix_refl _, h m, fun _ => rfl⟩

namespace Quiet

theorem of_pure (a : α) : Quiet (pure a) := keeps_pure Machine.Ran.refl a

theorem of_throw (e : RunError) : Quiet (throw e : Run α) := keeps_throw Machine.Ran.refl e

theorem of_modify {k : Machine → Machine} (hc : ∀ m, (k m).calls = m.calls)
    (ht : ∀ m, (k m).tools = m.tools) : Quiet (modify k : Run Unit) :=
  fun m => ⟨by simp [hc], ht m⟩

theorem bind (h : Quiet r) (hf : ∀ a, Quiet (f a)) : Quiet (r >>= f) :=
  Keeps.bind (fun _ _ _ => Machine.Ran.trans) h hf

theorem starts_bind (h : Quiet r) (hf : ∀ a, Starts (f a) ran) : Starts (r >>= f) ran :=
  (starts_nil_iff.2 h).bind hf

theorem forM {l : List α} {f : α → Run PUnit} (h : ∀ a ∈ l, Quiet (f a)) : Quiet (l.forM f) :=
  keeps_forM Machine.Ran.refl (fun _ _ _ => Machine.Ran.trans) h

theorem onTree (wrap : FileError → RunError) (op : FileTree.Op α) : Quiet (onTree wrap op) := by
  intro m
  rw [effect_onTree]
  exact ⟨(List.append_nil _).symm, rfl⟩

theorem note (text : String) : Quiet (note text) :=
  of_modify (fun m => by cases m.log <;> rfl) fun m => by cases m.log <;> rfl

theorem say (level : MessageLevel) (text : String) : Quiet (say level text) :=
  of_modify (fun _ => rfl) fun _ => rfl

end Quiet

theorem Starts.bind_quiet (h : Starts r ran) (hf : ∀ a, Quiet (f a)) : Starts (r >>= f) ran := by
  have hstarts := h.bind fun a => starts_nil_iff.2 (hf a)
  rwa [List.append_nil] at hstarts

/-- A call is turned down as it stands, whatever state the run is in. -/
theorem effect_handOver (call : ToolCall) (m : Machine) : effect (handOver call) m =
    (if call.hasIllegalVariable then .error .illegalVariable
      else if call.hasNull then .error (.refused .nullInPath) else .ok (), m) := by
  unfold handOver
  split
  · rfl
  · split <;> rfl

theorem quiet_handOver (call : ToolCall) : Quiet (handOver call) := by
  intro m
  rw [effect_handOver]
  exact .refl m

theorem starts_nextTool (call : ToolCall) : Starts (nextTool call) [call] := by
  intro m
  refine ⟨[call], List.prefix_refl _, ⟨rfl, ?_⟩, fun _ => rfl⟩
  rw [List.length_singleton, List.drop_one]
  rfl

section Actions

variable {o : RunOptions} {a : Action}

theorem quiet_firstOf (paths : List Path) : Quiet (firstOf paths) := by
  cases paths with
  | nil => exact .of_throw _
  | cons p _ => exact .of_pure p

theorem quiet_placeFile (source dest : Path) : Quiet (placeFile source dest) := .onTree _ _

theorem quiet_releaseLog : Quiet releaseLog := .of_modify (fun _ => rfl) fun _ => rfl

theorem quiet_stage (dir : Path) (copies : List FileCopy) (links : List FileLink) :
    Quiet (stage dir copies links) := by
  have hprepare : Quiet (prepare dir) := (Quiet.onTree _ _).bind fun _ => quiet_releaseLog
  have hcopies : Quiet (copies.forM fun c => placeFile c.source c.dest) :=
    .forM fun c _ => quiet_placeFile c.source c.dest
  have hlinks : Quiet (links.forM fun l =>
      onTree (.failed ∘ .link l.target l.link) (FileTree.makeLink l.target l.link)) :=
    .forM fun l _ => .onTree _ _
  exact hprepare.bind fun _ => hcopies.bind fun _ => hlinks

theorem quiet_failStart (description : String) (cause : FileError) :
    Quiet (failStart description cause : Run α) :=
  (Quiet.say _ _).bind fun _ => .of_throw _

theorem quiet_touched (t : ToolRun) (argv : List String) : Quiet (touched t argv) := by
  unfold touched
  split
  · exact .of_pure _
  · exact .of_pure _
  · exact .of_throw _

theorem quiet_touchAll (description : String) (paths : List Path) :
    Quiet (tryCatch (paths.forM touch) fun e =>
      match e with
      | .refused .nullInPath => throw e
      | .refused cause => failStart description cause
      | e => throw e) := by
  refine Keeps.tryCatch (fun _ _ _ => Machine.Ran.trans) (Quiet.forM fun p _ => .onTree _ _) ?_
  intro e
  split
  · exact Quiet.of_throw _
  · exact quiet_failStart _ _
  · exact Quiet.of_throw _

/-- A tool runs once at most, and once if all goes well. -/
theorem starts_runTool (description : String) (call : ToolCall) :
    Starts (runTool description call) [call] := by
  refine (quiet_handOver call).starts_bind fun _ => (starts_nextTool call).bind_quiet fun t =>
    (Quiet.note _).bind fun _ => (quiet_touched t call.argv).bind fun paths =>
      (quiet_touchAll description paths).bind fun _ => ?_
  split
  · exact .of_pure _
  · exact (Quiet.note _).bind fun _ => (Quiet.say _ _).bind fun _ => .of_throw _
  · split
    · exact .of_throw _
    · exact quiet_failStart _ _

theorem starts_command (argv : List String) (env : Environment) :
    Starts (command o a argv env) [⟨argv, o.cwd, o.timeout, env⟩] := by
  have hdirs : Quiet (a.outputs.forM fun output =>
      onTree .refused (FileTree.makeDirs true output.parent)) := .forM fun _ _ => .onTree _ _
  refine (Quiet.say _ _).starts_bind fun _ => (Quiet.note _).starts_bind fun _ =>
    hdirs.starts_bind fun _ => (starts_runTool _ _).bind_quiet fun code => ?_
  split
  · exact (Quiet.say _ _).bind fun _ => (Quiet.note _).bind fun _ => .of_throw _
  · exact .of_pure _

end Actions

end Run

def Action.call? (a : Action) (o : RunOptions) : Option ToolCall :=
  match a.work with
  | .command argv env => some ⟨argv, o.cwd, o.timeout, env⟩
  | _ => none

theorem Run.starts_action (o : RunOptions) (a : Action) :
    Starts (action o a) (a.call? o).toList := by
  unfold action Action.call?
  cases a.work with
  | stage copies links =>
    exact (quiet_firstOf _).starts_bind fun _ => starts_nil_iff.2 (quiet_stage _ _ _)
  | write content => exact (quiet_firstOf _).starts_bind fun _ => starts_nil_iff.2 (.onTree _ _)
  | command argv env => exact starts_command argv env
  | copy =>
    exact (quiet_firstOf _).starts_bind fun _ => (quiet_firstOf _).starts_bind fun _ =>
      starts_nil_iff.2 (quiet_placeFile _ _)

end BundleWright
