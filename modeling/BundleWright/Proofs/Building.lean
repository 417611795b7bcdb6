import BundleWright.CommandLine
import BundleWright.Proofs.Assembly
import BundleWright.Proofs.FailStop
import Mathlib.Data.List.Forall2
/-!
What the command that builds does. Main statement: it carries out the plans of the bundles without
errors, in the order of the bundles and up to the first action that fails, and nothing else.
-/
namespace BundleWright

theorem Assembly.forall₂_plans (a : Assembly) :
    List.Forall₂ (fun o p => o.bundle = p.1 ∧ o.result = .ok p.2) (a.outcomes.filter Outcome.ok)
      a.plans := by
  unfold plans
  induction a.outcomes with
  | nil => exact .nil
  | cons o os ih =>
    by_cases hok : o.ok = true
    · obtain ⟨plan, hp⟩ := o.exists_of_ok hok
      have hplan : (if o.ok then o.plan?.map (o.bundle, ·) else none) = some (o.bundle, plan) := by
        rw [if_pos hok, Outcome.plan?, hp]
        rfl
      simp only [List.filter_cons_of_pos hok, List.filterMap_cons, hplan]
      exact .cons ⟨rfl, hp⟩ ih
    · simp only [List.filter_cons_of_neg hok, List.filterMap_cons, if_neg hok]
      exact ih

namespace CommandLine

open Console

def SameMachine (st st' : State) : Prop := st'.machine = st.machine

def Idle {α : Type} (x : Command α) : Prop := Keeps SameMachine x

namespace Idle

variable {α β : Type} {x : Command α} {f : α → Command β}

theorem of_pure (a : α) : Idle (pure a) := fun _ => rfl

theorem of_throw (e : Stop) : Idle (throw e : Command α) := fun _ => rfl

theorem bind (h : Idle x) (hf : ∀ a, Idle (f a)) : Idle (x >>= f) :=
  Keeps.bind (fun _ _ _ (h : SameMachine _ _) h' => Eq.trans h' h) h hf

theorem forM {l : List α} {f : α → Command PUnit} (h : ∀ a ∈ l, Idle (f a)) : Idle (l.forM f) :=
  keeps_forM (fun st => show SameMachine st st from rfl)
    (fun _ _ _ (h : SameMachine _ _) h' => Eq.trans h' h) h

/-- Behind a step that leaves the machine alone, the next one finds it unless that step fails. -/
theorem machine_bind (h : Idle x) (f : α → Command β) (st : State) :
    ((effect x st).1.toOption.isSome = true ∧ ∃ a st₁, st₁.machine = st.machine ∧
      effect x st = (.ok a, st₁) ∧ effect (x >>= f) st = effect (f a) st₁) ∨
    ((effect x st).1.toOption.isSome ≠ true ∧ (effect (x >>= f) st).2.machine = st.machine) := by
  have hx := h st
  cases hr : effect x st with
  | mk result st₁ =>
    rw [hr] at hx
    cases result with
    | error e =>
      rw [effect_bind_of_error hr]
      exact .inr ⟨nofun, hx⟩
    | ok a => exact .inl ⟨rfl, a, st₁, hx, rfl, effect_bind_of_ok hr⟩

theorem line (text : String) : Idle (line text) := by
  unfold Console.line
  split
  · exact fun _ => rfl
  · exact .of_throw _

theorem complainOf (text : String) : Idle (complainOf text) := by
  unfold Console.complainOf
  split
  · exact fun _ => rfl
  · exact .of_throw _

theorem complain (text : String) : Idle (complain text : Command α) :=
  (complainOf text).bind fun _ => .of_throw _

theorem finish (a : Assembly) : Idle (finish a) := by
  unfold CommandLine.finish
  split
  · exact .of_throw _
  · exact .of_pure _

end Idle

variable {path : Path} {s : Settings} {g : Arguments.Given} {names : List String} {st st' : State}
  {w w' : Workspace} {a : Assembly}

theorem idle_load (path : Path) (s : Settings) : Idle (load path s) := by
  intro st
  unfold load
  rw [effect_bind_of_ok effect_get]
  split
  · exact Idle.of_pure _ st
  · exact Idle.of_throw _ st
  · exact (Idle.complainOf _).bind (fun _ => .complain _) st
  · split
    · exact Idle.complain _ st
    · exact Idle.of_throw _ st
  · exact Idle.of_throw _ st
  · exact Idle.complain _ st

theorem idle_assemble (path : Path) (s : Settings) (names : List String) :
    Idle (assemble path s names) := by
  refine (idle_load path s).bind fun w st => ?_
  rw [effect_bind_of_ok effect_get]
  split
  · exact Idle.of_pure _ st
  · exact Idle.complain _ st
  · exact Idle.of_throw _ st
  · exact Idle.of_throw _ st

theorem effect_assemble (hw : Workspace.load st.machine.tree path s = .ok w)
    (ha : w.assemble s st.machine.tree names = (w', .ok a)) :
    effect (assemble path s names) st = (.ok (w', a), st) := by
  have hload : effect (load path s) st = (.ok w, st) := by
    unfold load
    rw [effect_bind_of_ok effect_get, hw]
    rfl
  unfold assemble
  rw [effect_bind_of_ok hload, effect_bind_of_ok effect_get, ha]
  rfl

theorem effect_complain_ne {α : Type} (text : String) (a : α) :
    effect (complain text : Command α) st ≠ (.ok a, st') := by
  intro h
  obtain ⟨_, _, _, h⟩ := exists_of_effect_bind h
  cases h

theorem load_of_effect (h : effect (load path s) st = (.ok w, st')) :
    Workspace.load st.machine.tree path s = .ok w ∧ st' = st := by
  unfold load at h
  rw [effect_bind_of_ok effect_get] at h
  split at h
  · next w hw =>
    cases h
    exact ⟨hw, rfl⟩
  · cases h
  · obtain ⟨_, _, _, h⟩ := exists_of_effect_bind h
    exact absurd h (effect_complain_ne _ _)
  · split at h
    · exact absurd h (effect_complain_ne _ _)
    · cases h
  · cases h
  · exact absurd h (effect_complain_ne _ _)

theorem assemble_of_effect (h : effect (assemble path s names) st = (.ok (w', a), st')) :
    ∃ w, Workspace.load st.machine.tree path s = .ok w ∧
      w.assemble s st.machine.tree names = (w', .ok a) := by
  obtain ⟨w, st₁, hload, hrest⟩ := exists_of_effect_bind h
  obtain ⟨hw, rfl⟩ := load_of_effect hload
  refine ⟨w, hw, ?_⟩
  rw [effect_bind_of_ok effect_get] at hrest
  split at hrest
  · next ha =>
    cases hrest
    exact ha
  · exact absurd hrest (effect_complain_ne _ _)
  · cases hrest
  · cases hrest

theorem machine_run {α β : Type} (r : Run α) {k : α → Command β} (hk : ∀ a, Idle (k a))
    (st : State) : (effect (run r >>= k) st).2.machine = (effect r st.machine).2 := by
  have hrun : (effect (run r) st).2.machine = (effect r st.machine).2 := by
    unfold run
    rw [effect_bind_of_ok effect_get]
    cases h : effect r st.machine with
    | mk result m =>
      have hrun : r.run.run st.machine = (result, m) := h
      simp only [hrun]
      rw [effect_bind_of_ok effect_set]
      cases result with
      | ok a => rfl
      | error e =>
        cases e with
        | failed f => exact (Idle.line _).bind (fun _ => .of_throw _) _
        | refused e => rfl
        | illegalVariable => rfl
        | incomplete => rfl
  cases hr : effect (run r) st with
  | mk result st₁ =>
    rw [hr] at hrun
    cases result with
    | error e =>
      rw [effect_bind_of_error hr]
      exact hrun
    | ok a =>
      rw [effect_bind_of_ok hr]
      exact Eq.trans (hk a st₁) hrun

theorem succeeds_forM_iff {α : Type} {l : List α} {step : α → Command PUnit} {p : α → Prop}
    (h : ∀ a st, (effect (step a) st).1.toOption.isSome = true ↔ p a) (st : State) :
    (effect (l.forM step) st).1.toOption.isSome = true ↔ ∀ a ∈ l, p a := by
  induction l generalizing st with
  | nil => exact ⟨fun _ => nofun, fun _ => rfl⟩
  | cons a l ih =>
    have ha := h a st
    rw [List.forall_mem_cons, ← ha]
    cases hstep : effect (step a) st with
    | mk result st₁ =>
      cases result with
      | error e =>
        have hforM : effect ((a :: l).forM step) st = (.error e, st₁) := effect_bind_of_error hstep
        rw [hforM]
        exact ⟨nofun, And.left⟩
      | ok u =>
        have hforM : effect ((a :: l).forM step) st = effect (l.forM step) st₁ :=
          effect_bind_of_ok hstep
        rw [hforM]
        exact ⟨fun hl => ⟨rfl, (ih st₁).1 hl⟩, fun hl => (ih st₁).2 hl.2⟩

theorem succeeds_line_iff (text : String) (st : State) :
    (effect (line text) st).1.toOption.isSome = true ↔ ∃ t, Text.Markup.render text = .ok t := by
  unfold line
  cases Text.Markup.render text <;> simp [echo, Except.toOption]

def Shown (a : Assembly) : Prop :=
  ∀ o ∈ a.outcomes.filter (!·.ok), ∀ text ∈ o.display, ∃ t, Text.Markup.render text = .ok t

/-- The command that builds runs the plans of the assembly and nothing else, once it has shown which
bundles have errors; without an assembly it runs nothing. -/
theorem machine_build (path : Path) (s : Settings) (g : Arguments.Given) (st : State) :
    (∃ w w' a, Workspace.load st.machine.tree path s = .ok w ∧
      w.assemble s st.machine.tree (g.values "bundle") = (w', .ok a) ∧
      ((Shown a ∧ (effect (build path s g) st).2.machine =
          (effect (Run.plans s (g.has "dry-run") a.plans) st.machine).2) ∨
        (¬Shown a ∧ (effect (build path s g) st).2.machine = st.machine))) ∨
    (¬(∃ w w' a, Workspace.load st.machine.tree path s = .ok w ∧
        w.assemble s st.machine.tree (g.values "bundle") = (w', .ok a)) ∧
      (effect (build path s g) st).2.machine = st.machine) := by
  rcases (idle_assemble path s (g.values "bundle")).machine_bind _ st with
    ⟨_, ⟨w', a⟩, st₁, hmachine, ha, hbuild⟩ | ⟨hno, hmachine⟩
  · obtain ⟨w, hw, hassembled⟩ := assemble_of_effect ha
    refine .inl ⟨w, w', a, hw, hassembled, ?_⟩
    have hshown : (effect ((a.outcomes.filter (!·.ok)).forM fun o => o.display.forM line)
        st₁).1.toOption.isSome = true ↔ Shown a :=
      succeeds_forM_iff (fun o => succeeds_forM_iff succeeds_line_iff) st₁
    have hidle : Idle ((a.outcomes.filter (!·.ok)).forM fun o => o.display.forM line) :=
      .forM fun o _ => .forM fun text _ => .line text
    rw [build, hbuild, ← hmachine]
    rcases hidle.machine_bind _ st₁ with ⟨hs, _, st₂, hst₂, _, hrest⟩ | ⟨hs, hst₂⟩
    · refine .inl ⟨hshown.1 hs, ?_⟩
      rw [hrest, ← hst₂]
      exact machine_run _ (fun reports =>
        (Idle.forM fun r _ => .line _).bind fun _ => .finish a) st₂
    · exact .inr ⟨mt hshown.2 hs, hst₂⟩
  · refine .inr ⟨?_, hmachine⟩
    rintro ⟨w, w', a, hw, ha⟩
    rw [effect_assemble hw ha] at hno
    exact hno rfl

end CommandLine

open CommandLine in
/-- Carrying out is in order and stops at the first failure. Actions of a plan are done one after
another up to the first that fails, each tool is run once, and what stands behind a failure makes no
difference; the same holds of plans. A run that only tells counts every action and changes nothing
but what has been said. The command that builds runs the plans of the bundles without errors, in the
order of the bundles. -/
theorem fail_stop :
    (∀ (o : RunOptions) bundle as m, o.dryRun = false →
      Run.Ending o bundle m as (effect (Run.actions o bundle as) m).1
        (effect (Run.actions o bundle as) m).2) ∧
    (∀ (o : RunOptions) bundle as m, o.dryRun = true → ∃ m', m.Told m' ∧
      (((∀ a ∈ as, a.Tellable) ∧
          effect (Run.actions o bundle as) m = (.ok ⟨bundle, o.log, as.length, []⟩, m')) ∨
        (¬(∀ a ∈ as, a.Tellable) ∧
          effect (Run.actions o bundle as) m = (.error .incomplete, m')))) ∧
    (∀ s dryRun ps m, (∃ reports m', Chain (Run.ofPlan s dryRun) ps m reports m' ∧
        effect (Run.plans s dryRun ps) m = (.ok reports, m')) ∨
      ∃ before p after reports m₁ e m', ps = before ++ p :: after ∧
        Chain (Run.ofPlan s dryRun) before m reports m₁ ∧
        effect (Run.ofPlan s dryRun p) m₁ = (.error e, m') ∧
        ∀ rest, effect (Run.plans s dryRun (before ++ p :: rest)) m = (.error e, m')) ∧
    (∀ s ps, Run.Starts (Run.plans s false ps)
      (ps.flatMap fun p => Run.callsOf (p.1.runOptions s false) p.2.actions)) ∧
    (∀ s ps (m : Machine), m.Told (effect (Run.plans s true ps) m).2) ∧
    (∀ path s g st,
      (∃ w w' a, Workspace.load st.machine.tree path s = .ok w ∧
        w.assemble s st.machine.tree (g.values "bundle") = (w', .ok a) ∧
        ((Shown a ∧ (effect (build path s g) st).2.machine =
            (effect (Run.plans s (g.has "dry-run") a.plans) st.machine).2) ∨
          (¬Shown a ∧ (effect (build path s g) st).2.machine = st.machine))) ∨
      (¬(∃ w w' a, Workspace.load st.machine.tree path s = .ok w ∧
          w.assemble s st.machine.tree (g.values "bundle") = (w', .ok a)) ∧
        (effect (build path s g) st).2.machine = st.machine)) ∧
    ∀ a : Assembly, List.Forall₂ (fun o p => o.bundle = p.1 ∧ o.result = .ok p.2)
      (a.outcomes.filter Outcome.ok) a.plans :=
  ⟨fun _ bundle as m h => Run.ending_actions h bundle as m,
    fun _ bundle as m h => Run.actions_told h bundle as m, Run.plans_fail_stop, Run.starts_plans,
    Run.told_plans, machine_build, Assembly.forall₂_plans⟩

def failingActions : List Action :=
  [{ description := "a", outputs := [.ofString "a"], work := .write "" },
    { description := "t", outputs := [.ofString "b"], work := .command ["t"] [] },
    { description := "c", outputs := [.ofString "c"], work := .write "" }]

def failingMachine : Machine where
  tree := {}
  tools := [{ ending := .exits 1 }]

theorem fail_stop_failingActions :
    ∃ before a after m₁ m', failingActions = before ++ a :: after ∧
      effect (Run.action { log := .ofString "log" } a) m₁ =
        (.error (.failed (.exit "t" 1)), m') ∧
      effect (Run.actions { log := .ofString "log" } "z" failingActions) failingMachine =
        (.error (.failed (.exit "t" 1)), m') ∧
      m'.calls = [⟨["t"], none, none, []⟩] ∧ m'.tree.get? ["a"] = some (.file "") ∧
      m'.tree.get? ["c"] = none := by
  have hopened : (effect (Run.openLog { log := .ofString "log" } "z")
      failingMachine).1 = .ok () := by
    decide +kernel
  have hresult : (effect (Run.actions { log := .ofString "log" } "z" failingActions)
      failingMachine).1 = .error (.failed (.exit "t" 1)) := by
    decide +kernel
  have hstate : ∀ m' ∈ [(effect (Run.actions { log := .ofString "log" } "z" failingActions)
      failingMachine).2], m'.calls = [⟨["t"], none, none, []⟩] ∧
        m'.tree.get? ["a"] = some (.file "") ∧ m'.tree.get? ["c"] = none := by
    decide +kernel
  have hending := fail_stop.1 { log := .ofString "log" } "z" failingActions failingMachine rfl
  replace hstate := hstate _ (List.mem_singleton_self _)
  generalize effect (Run.actions { log := .ofString "log" } "z" failingActions)
    failingMachine = run at hresult hstate hending ⊢
  obtain ⟨result, m'⟩ := run
  obtain rfl : result = _ := hresult
  generalize failingActions = as at hending
  cases hending with
  | unopened hlog => rw [hlog] at hopened; cases hopened
  | stopped _ _ ha _ _ => exact ⟨_, _, _, _, m', rfl, ha, rfl, hstate⟩

end BundleWright
