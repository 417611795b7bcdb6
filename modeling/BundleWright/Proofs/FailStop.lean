import BundleWright.Assembly
import BundleWright.Proofs.Execution
/-!
How plans are carried out. Main statements: the actions of a plan are done in their order up to the
first that fails, with each tool run once; plans are carried out one after another in the same way;
and a run that only tells its actions changes nothing but what has been said.
-/
namespace BundleWright

namespace FileTree

theorem lookup_filter_ne {l l' : Location} (h : l ≠ l') (entries : List (Location × Entry)) :
    (entries.filter (·.1 ≠ l)).lookup l' = entries.lookup l' := by
  induction entries with
  | nil => rfl
  | cons x rest ih =>
    by_cases hx : x.1 = l
    · have hne : (l' == x.1) = false := beq_false_of_ne (hx ▸ h.symm)
      rw [List.filter_cons_of_neg (by simpa using hx), List.lookup_cons, hne, ih]
    · rw [List.filter_cons_of_pos (by simpa using hx), List.lookup_cons, List.lookup_cons, ih]

theorem get?_put_of_ne (t : FileTree) {l l' : Location} (e : Entry) (h : l ≠ l') :
    (t.put l e).get? l' = t.get? l' := by
  have hne : (l' == l) = false := beq_false_of_ne h.symm
  unfold get? put
  split
  · rfl
  · rw [List.lookup_cons, hne]
    exact lookup_filter_ne h _

theorem get?_writeAt_of_ne (t : FileTree) {l l' : Location} (offset : Nat) (text : String)
    (h : l ≠ l') : (t.writeAt l offset text).get? l' = t.get? l' := by
  unfold writeAt
  split
  · exact get?_put_of_ne t _ h
  · rfl

end FileTree

namespace Machine

structure Logged (m m' : Machine) : Prop where
  elsewhere : ∀ l : Location, m.log.map (·.place) ≠ some l → m'.tree.get? l = m.tree.get? l
  place : m'.log.map (·.place) = m.log.map (·.place)

theorem Logged.refl (m : Machine) : m.Logged m := ⟨fun _ _ => rfl, rfl⟩

theorem Logged.trans {m m₁ m' : Machine} (h : m.Logged m₁) (h' : m₁.Logged m') : m.Logged m' :=
  ⟨fun l hl => (h'.elsewhere l (h.place ▸ hl)).trans (h.elsewhere l hl), h'.place.trans h.place⟩

def Told (m m' : Machine) : Prop := ∃ told, m' = { m with messages := m.messages ++ told }

theorem Told.refl (m : Machine) : m.Told m := ⟨[], by simp⟩

theorem Told.trans {m m₁ m' : Machine} (h : m.Told m₁) (h' : m₁.Told m') : m.Told m' := by
  obtain ⟨told, rfl⟩ := h
  obtain ⟨told', rfl⟩ := h'
  exact ⟨told ++ told', by simp⟩

end Machine

theorem eq_nil_or_eq_of_prefix_toList {α : Type} {l : List α} {x : Option α}
    (h : l <+: x.toList) : l = [] ∨ l = x.toList := by
  cases x with
  | none => exact .inl (List.prefix_nil.1 h)
  | some a =>
    cases l with
    | nil => exact .inl rfl
    | cons b l =>
      obtain ⟨rfl, hl⟩ := List.cons_prefix_cons.1 h
      exact .inr (by rw [List.prefix_nil.1 hl]; rfl)

def Action.Tellable (a : Action) : Prop := a.commandLine? = none → a.outputs ≠ []

namespace Run

variable {o : RunOptions} {bundle : String} {as : List Action} {m m' : Machine}

def concluded (o : RunOptions) (bundle : String) (as : List Action) : Run RunReport := do
  note s!"\n# Finished: {o.times.finished}\n# Duration: {o.times.duration}s\n"
  say .info s!"Built {bundle}: {as.length} actions"
  return ⟨bundle, o.log, as.length, as.flatMap (·.outputs)⟩

theorem actions_of_not_dryRun (h : o.dryRun = false) : actions o bundle as =
    (openLog o bundle >>= fun _ => as.forM (action o) >>= fun _ => concluded o bundle as) := by
  unfold actions
  rw [if_neg (by simp [h])]
  rfl

theorem actions_of_dryRun (h : o.dryRun = true) : actions o bundle as =
    (as.forM tell >>= fun _ => pure ⟨bundle, o.log, as.length, []⟩) := by
  unfold actions
  rw [if_pos h]

theorem quiet_openLog : Quiet (openLog o bundle) := by
  refine (Quiet.onTree _ _).bind fun _ => Quiet.bind ?_ fun _ =>
    (Quiet.note _).bind fun _ => .note _
  exact .of_modify (fun _ => rfl) fun _ => rfl

theorem logged_note (text : String) : Keeps Machine.Logged (note text) := by
  intro m
  unfold note
  rw [effect_modify]
  cases hlog : m.log with
  | none => exact .refl m
  | some log =>
    refine ⟨fun l hl => FileTree.get?_writeAt_of_ne _ _ _ ?_, by simp [hlog]⟩
    simpa [hlog] using hl

theorem logged_concluded : Keeps Machine.Logged (concluded o bundle as) :=
  Keeps.bind (fun _ _ _ => .trans) (logged_note _) fun _ =>
    Keeps.bind (fun _ _ _ => .trans) (fun _ => ⟨fun _ _ => rfl, rfl⟩) fun _ =>
      keeps_pure Machine.Logged.refl _

theorem effect_concluded : effect (concluded o bundle as) m =
    (.ok ⟨bundle, o.log, as.length, as.flatMap (·.outputs)⟩, (effect (concluded o bundle as) m).2) :=
  rfl

def callsOf (o : RunOptions) (as : List Action) : List ToolCall := as.flatMap fun a => (a.call? o).toList

theorem ran_of_chain {us : List PUnit} (h : Chain (action o) as m us m') : m.Ran (callsOf o as) m' :=
  (starts_forM fun a _ => starts_action o a).ran_of_ok h.effect_forM

theorem starts_actions (h : o.dryRun = false) :
    Starts (actions o bundle as) (callsOf o as) := by
  rw [actions_of_not_dryRun h]
  refine quiet_openLog.starts_bind fun _ => (starts_forM fun a _ => starts_action o a).bind_quiet ?_
  exact fun _ => (Quiet.note _).bind fun _ => (Quiet.say _ _).bind fun _ => .of_pure _

/-- How a run comes to its end: its log cannot be opened; or it stops at an action, when those before
it are done and whatever stands behind it; or all its actions are done. -/
inductive Ending (o : RunOptions) (bundle : String) (m : Machine) :
    List Action → Except RunError RunReport → Machine → Prop
  | unopened {as : List Action} {e : RunError} {m' : Machine} :
      effect (openLog o bundle) m = (.error e, m') → m.Ran [] m' →
        Ending o bundle m as (.error e) m'
  | stopped {before after : List Action} {a : Action} {m₀ m₁ m' : Machine} {us : List PUnit}
      {e : RunError} : effect (openLog o bundle) m = (.ok (), m₀) →
        Chain (action o) before m₀ us m₁ → effect (action o a) m₁ = (.error e, m') →
        m.Ran (callsOf o before) m' ∨ m.Ran (callsOf o (before ++ [a])) m' →
        (∀ rest, effect (actions o bundle (before ++ a :: rest)) m = (.error e, m')) →
          Ending o bundle m (before ++ a :: after) (.error e) m'
  | done {as : List Action} {m₀ m₁ m' : Machine} {us : List PUnit} :
      effect (openLog o bundle) m = (.ok (), m₀) → Chain (action o) as m₀ us m₁ → m₁.Logged m' →
        m.Ran (callsOf o as) m' →
          Ending o bundle m as (.ok ⟨bundle, o.log, as.length, as.flatMap (·.outputs)⟩) m'

/-- A run does its actions one after another and stops at the first that fails. -/
theorem ending_actions (h : o.dryRun = false) (bundle : String) (as : List Action) (m : Machine) :
    Ending o bundle m as (effect (actions o bundle as) m).1
      (effect (actions o bundle as) m).2 := by
  cases hlog : effect (openLog o bundle) m with
  | mk result m₀ =>
    have hquiet : Quiet (openLog o bundle) := quiet_openLog
    have hopened := hquiet m
    rw [hlog] at hopened
    cases result with
    | error e =>
      rw [actions_of_not_dryRun h, effect_bind_of_error hlog]
      exact .unopened hlog hopened
    | ok u =>
      rcases Chain.exists_or_stops (action o) as m₀ with
        ⟨us, m₁, hc⟩ | ⟨before, a, after, us, m₁, e, m', rfl, hc, ha⟩
      · have hdone : effect (actions o bundle as) m =
            (.ok ⟨bundle, o.log, as.length, as.flatMap (·.outputs)⟩,
              (effect (concluded o bundle as) m₁).2) := by
          rw [actions_of_not_dryRun h, effect_bind_of_ok hlog, effect_bind_of_ok hc.effect_forM,
            effect_concluded]
        rw [hdone]
        exact .done hlog hc (logged_concluded m₁) ((starts_actions h).ran_of_ok hdone)
      · have hstop (rest : List Action) :
            effect (actions o bundle (before ++ a :: rest)) m = (.error e, m') := by
          rw [actions_of_not_dryRun h, effect_bind_of_ok hlog,
            effect_bind_of_error (hc.effect_forM_of_error ha rest)]
        have hbefore := hopened.trans (ran_of_chain hc)
        obtain ⟨started, hpre, hran⟩ := (starts_action o a).exists_ran ha
        rw [hstop after]
        refine .stopped hlog hc ha ?_ hstop
        rcases eq_nil_or_eq_of_prefix_toList hpre with rfl | rfl
        · exact .inl (by simpa using hbefore.trans hran)
        · exact .inr (by simpa [callsOf] using hbefore.trans hran)

theorem told_say (level : MessageLevel) (text : String) : m.Told (effect (say level text) m).2 :=
  ⟨_, rfl⟩

theorem effect_tell (a : Action) (m : Machine) : ∃ m', m.Told m' ∧
    ((a.Tellable ∧ effect (tell a) m = (.ok (), m')) ∨
      (¬a.Tellable ∧ effect (tell a) m = (.error .incomplete, m'))) := by
  unfold tell Action.Tellable
  cases a.commandLine? with
  | some line => exact ⟨_, told_say _ _, .inl ⟨nofun, rfl⟩⟩
  | none =>
    cases a.outputs with
    | nil => exact ⟨m, .refl m, .inr ⟨fun h => h rfl rfl, rfl⟩⟩
    | cons p rest => exact ⟨_, told_say _ _, .inl ⟨fun _ => List.cons_ne_nil _ _, rfl⟩⟩

theorem effect_forM_tell (as : List Action) (m : Machine) : ∃ m', m.Told m' ∧
    (((∀ a ∈ as, a.Tellable) ∧ effect (as.forM tell) m = (.ok (), m')) ∨
      (¬(∀ a ∈ as, a.Tellable) ∧ effect (as.forM tell) m = (.error .incomplete, m'))) := by
  induction as generalizing m with
  | nil => exact ⟨m, .refl m, .inl ⟨nofun, rfl⟩⟩
  | cons a as ih =>
    obtain ⟨m₁, htold, ⟨ha, he⟩ | ⟨ha, he⟩⟩ := effect_tell a m
    · obtain ⟨m', htold', ⟨has, he'⟩ | ⟨has, he'⟩⟩ := ih m₁
      · exact ⟨m', htold.trans htold', .inl ⟨List.forall_mem_cons.2 ⟨ha, has⟩,
          (effect_bind_of_ok he).trans he'⟩⟩
      · exact ⟨m', htold.trans htold', .inr ⟨fun h => has (List.forall_mem_cons.1 h).2,
          (effect_bind_of_ok he).trans he'⟩⟩
    · exact ⟨m₁, htold, .inr ⟨fun h => ha (h a List.mem_cons_self), effect_bind_of_error he⟩⟩

/-- A run that only tells its actions counts them all and changes nothing. -/
theorem actions_told (h : o.dryRun = true) (bundle : String) (as : List Action) (m : Machine) :
    ∃ m', m.Told m' ∧ (((∀ a ∈ as, a.Tellable) ∧
        effect (actions o bundle as) m = (.ok ⟨bundle, o.log, as.length, []⟩, m')) ∨
      (¬(∀ a ∈ as, a.Tellable) ∧ effect (actions o bundle as) m = (.error .incomplete, m'))) := by
  rw [actions_of_dryRun h]
  obtain ⟨m', htold, ⟨has, he⟩ | ⟨has, he⟩⟩ := effect_forM_tell as m
  · exact ⟨m', htold, .inl ⟨has, by rw [effect_bind_of_ok he]; rfl⟩⟩
  · exact ⟨m', htold, .inr ⟨has, effect_bind_of_error he⟩⟩

def ofPlan (s : Settings) (dryRun : Bool) (p : BundleModule × Plan) : Run RunReport :=
  actions (p.1.runOptions s dryRun) p.2.bundle p.2.actions

theorem plans_fail_stop (s : Settings) (dryRun : Bool) (ps : List (BundleModule × Plan))
    (m : Machine) :
    (∃ reports m', Chain (ofPlan s dryRun) ps m reports m' ∧
      effect (plans s dryRun ps) m = (.ok reports, m')) ∨
    ∃ before p after reports m₁ e m', ps = before ++ p :: after ∧
      Chain (ofPlan s dryRun) before m reports m₁ ∧ effect (ofPlan s dryRun p) m₁ = (.error e, m') ∧
      ∀ rest, effect (plans s dryRun (before ++ p :: rest)) m = (.error e, m') := by
  rcases Chain.exists_or_stops (ofPlan s dryRun) ps m with
    ⟨reports, m', hc⟩ | ⟨before, p, after, reports, m₁, e, m', rfl, hc, hp⟩
  · exact .inl ⟨reports, m', hc, hc.effect_mapM⟩
  · exact .inr ⟨before, p, after, reports, m₁, e, m', rfl, hc, hp, hc.effect_mapM_of_error hp⟩

theorem starts_plans (s : Settings) (ps : List (BundleModule × Plan)) :
    Starts (plans s false ps)
      (ps.flatMap fun p => callsOf (p.1.runOptions s false) p.2.actions) :=
  starts_mapM fun _ _ => starts_actions rfl

theorem told_plans (s : Settings) (ps : List (BundleModule × Plan)) (m : Machine) :
    m.Told (effect (plans s true ps) m).2 := by
  refine keeps_mapM Machine.Told.refl (fun _ _ _ => .trans) (fun p _ m => ?_) m
  obtain ⟨m', htold, ⟨_, he⟩ | ⟨_, he⟩⟩ :=
    actions_told (o := p.1.runOptions s true) rfl p.2.bundle p.2.actions m <;>
  · rw [he]
    exact htold

end Run

end BundleWright
