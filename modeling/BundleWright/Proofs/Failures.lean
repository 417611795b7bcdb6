import BundleWright.Proofs.FailStop
import BundleWright.Proofs.Restaging
/-!
How a run fails. Main statement: once its log is open, a run fails with a failure of the action it
has come to, under one of the codes for actions of its kind; only when a directory for what a tool
is to make is refused does the refusal of the system come out as it is, and only words that cannot
be put to the system end a run in yet another way.
-/
namespace BundleWright

def Action.Complete (a : Action) : Prop :=
  match a.work with
  | .stage _ _ | .write _ => a.outputs ≠ []
  | .copy => a.inputs ≠ [] ∧ a.outputs ≠ []
  | .command argv _ => argv ≠ []

instance : DecidablePred Action.Complete := fun a => by
  unfold Action.Complete
  cases a.work <;> infer_instance

theorem Action.Complete.tellable {a : Action} (h : a.Complete) : a.Tellable := by
  obtain ⟨_, outputs, inputs, work, _⟩ := a
  cases work with
  | stage copies links => exact fun _ => h
  | write content => exact fun _ => h
  | command argv env => exact nofun
  | copy => exact fun _ => h.2

def toolCodes : List String := ["execution_error", "build_timeout", "tool_failed"]

def Work.codes : Work → List String
  | .command _ _ => toolCodes
  | _ => ["stage_error"]

def ToolRun.touches (t : ToolRun) (argv : List String) : List Path :=
  (t.touch ++ if t.touchLast then argv.getLast?.toList else []).map .ofString

namespace ToolCall

/-- Whether a call can be put to the system, where NUL ends every text. -/
structure Nameable (call : ToolCall) : Prop where
  argv : ∀ word ∈ call.argv, Path.null ∉ word.toList
  env : ∀ v ∈ call.env, Path.null ∉ v.1.toList ∧ Path.null ∉ v.2.toList
  cwd : ∀ dir ∈ call.cwd, dir.hasNull = false

variable {call : ToolCall}

theorem hasNull_eq_false_iff : call.hasNull = false ↔ call.Nameable := by
  have hcwd : call.cwd.any Path.hasNull = false ↔ ∀ dir ∈ call.cwd, dir.hasNull = false := by
    cases call.cwd <;> simp
  simp only [hasNull, Bool.or_eq_false_iff, List.any_eq_false, Bool.or_eq_true, not_or,
    List.contains_iff_mem, hcwd]
  constructor
  · rintro ⟨⟨hargv, henv⟩, hdir⟩
    exact ⟨hargv, henv, hdir⟩
  · intro h
    exact ⟨⟨h.argv, h.env⟩, h.cwd⟩

theorem hasIllegalVariable_iff :
    call.hasIllegalVariable = true ↔ ∃ v ∈ call.env, '=' ∈ v.1.toList := by
  simp [hasIllegalVariable]

end ToolCall

/-- Whether the system can name all that an action works on, and all that a tool is told and writes
for it. -/
def Action.Nameable (o : RunOptions) (a : Action) (t : ToolRun) : Prop :=
  match a.work with
  | .stage copies links => ∀ dir ∈ a.outputs.head?, Run.Nameable dir copies links
  | .write _ => ∀ p ∈ a.outputs, p.hasNull = false
  | .copy => ∀ p ∈ a.inputs ++ a.outputs, p.hasNull = false
  | .command argv env => (∀ p ∈ a.outputs ++ t.touches argv, p.hasNull = false) ∧
      (⟨argv, o.cwd, o.timeout, env⟩ : ToolCall).Nameable

namespace FileTree

def makeParents (paths : List Path) : Op Unit := paths.forM fun p => makeDirs true p.parent

theorem fails_makeParents {paths : List Path} (h : ∀ p ∈ paths, p.hasNull = false) :
    Fails (· ≠ .nullInPath) (makeParents paths) :=
  .forM fun p hp => fails_makeDirs true (Path.hasNull_parent (h p hp))

end FileTree

/-- What the system says to the directories for what a tool is to make. The command line is in the
log by then. -/
def Action.room (a : Action) (argv : List String) (env : Environment) (m : Machine) :
    Except FileError Unit :=
  (effect (FileTree.makeParents a.outputs)
    (effect (Run.note s!"# Command: {commandLine argv env}\n") m).2.tree).1

def Action.Barred (a : Action) (m : Machine) (e : FileError) : Prop :=
  ∃ argv env, a.work = .command argv env ∧ a.room argv env m = .error e

/-- Whether an action comes as far as to call its tool. -/
def Action.Calls (o : RunOptions) (a : Action) (m : Machine) (call : ToolCall) : Prop :=
  a.call? o = some call ∧ a.room call.argv call.env m = .ok ()

namespace Run

variable {o : RunOptions} {bundle : String} {as : List Action} {a : Action} {m m' m₀ : Machine}

section Refusals

variable {α : Type} {op : FileTree.Op α}

theorem effect_onTree_refused (op : FileTree.Op α) (m : Machine) : effect (onTree .refused op) m =
    ((effect op m.tree).1.mapError .refused, { m with tree := (effect op m.tree).2 }) := by
  refine Prod.ext ?_ (effect_onTree _ _ _)
  rw [effect_onTree_fst]
  cases (effect op m.tree).1 with
  | ok a => rfl
  | error e => cases e <;> rfl

/-- Refusals of one operation after another are those of all of them together. -/
theorem effect_forM_onTree_refused {β : Type} (op : β → FileTree.Op Unit) (bs : List β)
    (m : Machine) : effect (bs.forM fun b => onTree .refused (op b)) m =
      effect (onTree .refused (bs.forM op)) m := by
  induction bs generalizing m with
  | nil => rfl
  | cons b bs ih =>
    have hfirst := effect_onTree_refused (op b) m
    have hall := effect_onTree_refused (op b >>= fun _ => bs.forM op) m
    cases hb : effect (op b) m.tree with
    | mk result t =>
      rw [hb] at hfirst
      cases result with
      | error e =>
        rw [effect_bind_of_error hb] at hall
        exact (effect_bind_of_error hfirst).trans hall.symm
      | ok u =>
        rw [effect_bind_of_ok hb] at hall
        exact ((effect_bind_of_ok hfirst).trans (ih _)).trans
          ((effect_onTree_refused (bs.forM op) _).trans hall.symm)

theorem refused_of_onTree {e : RunError} (h : (effect (onTree .refused op) m).1 = .error e) :
    ∃ cause, (effect op m.tree).1 = .error cause ∧ e = .refused cause := by
  rw [effect_onTree_refused] at h
  cases hop : (effect op m.tree).1 with
  | ok a =>
    rw [hop] at h
    cases h
  | error cause =>
    rw [hop] at h
    cases h
    exact ⟨cause, rfl, rfl⟩

end Refusals

section Tools

variable {call : ToolCall} {named : Prop} {e : RunError}

theorem touched_eq (t : ToolRun) {argv : List String} (h : argv ≠ []) :
    touched t argv = pure (t.touches argv) := by
  obtain ⟨last, hlast⟩ := Option.isSome_iff_exists.1 (List.getLast?_isSome.2 h)
  unfold touched ToolRun.touches
  rw [hlast]
  cases t.touchLast with
  | false => simp
  | true => simp

theorem fails_touch (p : Path) : Fails (fun e => ∃ cause, e = .refused cause ∧
    (p.hasNull = false → cause ≠ .nullInPath)) (touch p) := by
  intro m e he
  obtain ⟨cause, hcause, rfl⟩ := refused_of_onTree he
  refine ⟨cause, rfl, fun hp => ?_⟩
  exact ((FileTree.fails_makeDirs true (Path.hasNull_parent hp)).bind fun _ =>
    FileTree.fails_writeText hp _ _) _ _ hcause

theorem shaped_failStart {α : Type} (description : String) (cause : FileError) :
    Fails (Shaped toolCodes named) (failStart description cause : Run α) :=
  (Fails.of_modify _).bind fun _ =>
    .of_throw (.inl ⟨_, rfl, by simp [toolCodes, ActionFailure.code]⟩)

theorem effect_handOver_of_illegal (h : ∃ v ∈ call.env, '=' ∈ v.1.toList) (m : Machine) :
    effect (handOver call) m = (.error .illegalVariable, m) := by
  rw [effect_handOver, if_pos (ToolCall.hasIllegalVariable_iff.2 h)]

theorem effect_handOver_of_null (hnames : ∀ v ∈ call.env, '=' ∉ v.1.toList)
    (h : ¬call.Nameable) (m : Machine) :
    effect (handOver call) m = (.error (.refused .nullInPath), m) := by
  have hlegal : ¬call.hasIllegalVariable = true := by
    rw [ToolCall.hasIllegalVariable_iff]
    rintro ⟨v, hv, he⟩
    exact hnames v hv he
  have hnull : call.hasNull = true := by
    rwa [← Bool.not_eq_false, ToolCall.hasNull_eq_false_iff]
  rw [effect_handOver, if_neg hlegal, if_pos hnull]

theorem shaped_handOver (h : (effect (handOver call) m).1 = .error e) :
    e = .illegalVariable ∧ call.hasIllegalVariable = true ∨ Shaped toolCodes call.Nameable e := by
  rw [effect_handOver] at h
  split at h
  · next hname =>
    cases h
    exact .inl ⟨rfl, hname⟩
  · split at h
    · next hnull =>
      cases h
      refine .inr (.inr ⟨rfl, fun hn => ?_⟩)
      rw [ToolCall.hasNull_eq_false_iff.2 hn] at hnull
      cases hnull
    · cases h

theorem effect_handOver_of_ok {u : Unit} (h : effect (handOver call) m = (.ok u, m')) : m' = m :=
  (congrArg Prod.snd ((effect_handOver call m).symm.trans h)).symm

/-- A run of a tool fails as one of its kind, unless the call is turned down or the tool writes a
file that cannot be named. -/
theorem shaped_runTool {description : String}
    (h : (effect (runTool description call) m).1 = .error e) (hargv : call.argv ≠ []) :
    e = .illegalVariable ∧ call.hasIllegalVariable = true ∨ Shaped toolCodes
      ((∀ p ∈ (m.tools.head?.getD {}).touches call.argv, p.hasNull = false) ∧ call.Nameable) e := by
  have hnext : effect (nextTool call) m = (.ok (m.tools.head?.getD {}),
    { m with tools := m.tools.tail, calls := m.calls ++ [call] }) := rfl
  rcases error_of_effect_bind h with hgiven | ⟨_, m₁, hgiven, hrest⟩
  · exact (shaped_handOver hgiven).imp_right (·.mono And.right)
  refine .inr (Shaped.mono ?_ And.left)
  rw [effect_handOver_of_ok hgiven, effect_bind_of_ok hnext] at hrest
  -- the failure is one of the run that was taken, whatever is left of the script
  generalize m.tools.head?.getD {} = t at hrest ⊢
  rw [touched_eq t hargv] at hrest
  simp only [pure_bind] at hrest
  have htouch : Fails (fun e => ∃ cause, e = .refused cause ∧
      ((∀ p ∈ t.touches call.argv, p.hasNull = false) → cause ≠ .nullInPath))
      ((t.touches call.argv).forM touch) := by
    refine .forM fun p hp m e he => ?_
    obtain ⟨cause, rfl, hnull⟩ := fails_touch p m e he
    exact ⟨cause, rfl, fun hall => hnull (hall p hp)⟩
  refine (Fails.of_modify _).bind (fun _ => (htouch.tryCatch fun e he => ?_).bind fun _ => ?_)
    _ _ hrest
  · obtain ⟨cause, rfl, hnull⟩ := he
    split
    · next heq =>
      cases heq
      exact .of_throw (.inr ⟨rfl, fun hall => hnull hall rfl⟩)
    · exact shaped_failStart _ _
    · next hne => exact absurd rfl (hne cause)
  · split
    · exact .of_pure _
    · exact (Fails.of_modify _).bind fun _ => (Fails.of_modify _).bind fun _ =>
        .of_throw (.inl ⟨_, rfl, by simp [toolCodes, ActionFailure.code]⟩)
    · split
      · next hnil => exact absurd hnil hargv
      · exact shaped_failStart _ _

end Tools

/-- What a run stops with at an action: one of the failures of its kind of work; what the system
says when a directory for its outputs is refused; or that something cannot be named to it. -/
inductive Stops (o : RunOptions) (a : Action) (m : Machine) : RunError → Prop
  | failed {f : ActionFailure} : f.code ∈ a.work.codes → Stops o a m (.failed f)
  | barred {e : FileError} : e ≠ .nullInPath → a.Barred m e → Stops o a m (.refused e)
  | unnamed : ¬a.Nameable o (m.tools.head?.getD {}) → Stops o a m (.refused .nullInPath)
  | misnamed {call : ToolCall} : a.Calls o m call → (∃ v ∈ call.env, '=' ∈ v.1.toList) →
      Stops o a m .illegalVariable

theorem Shaped.stops {e : RunError} {named : Prop} (h : Shaped a.work.codes named e)
    (hn : a.Nameable o (m.tools.head?.getD {}) → named) : Stops o a m e := by
  rcases h with ⟨f, rfl, hcode⟩ | ⟨rfl, hnamed⟩
  · exact .failed hcode
  · exact .unnamed fun ha => hnamed (hn ha)

def carriedOut (o : RunOptions) (a : Action) (argv : List String) (env : Environment) :
    Run Unit := do
  let code ← runTool a.description ⟨argv, o.cwd, o.timeout, env⟩
  if code ≠ 0 then
    let f := ActionFailure.exit a.description code
    say .error s!"{f.message}. See log: {o.log.text}"
    note s!"\n# Exit code: {code}\n"
    fail f

section Commands

variable {argv : List String} {env : Environment}

theorem action_of_command (hwork : a.work = .command argv env) :
    action o a = command o a argv env := by
  unfold action
  rw [hwork]

theorem effect_command (o : RunOptions) (a : Action) (argv : List String) (env : Environment)
    (m : Machine) : ∃ m₁, m₁.tools = m.tools ∧
      (effect (onTree .refused (FileTree.makeParents a.outputs)) m₁).1 =
        (a.room argv env m).mapError .refused ∧
      effect (command o a argv env) m =
        effect (onTree .refused (FileTree.makeParents a.outputs) >>= fun _ =>
          carriedOut o a argv env) m₁ := by
  refine ⟨(effect (note s!"# Command: {commandLine argv env}\n") (effect (say .info
    s!"Executing {a.description}: {commandLine argv env}") m).2).2, ?_, ?_, ?_⟩
  · unfold note
    cases hlog : m.log <;> simp [say, hlog]
  · rw [effect_onTree_refused]
    unfold Action.room note
    cases hlog : m.log <;> simp [say, hlog]
  · exact effect_bind_congr (effect_forM_onTree_refused _ a.outputs _) _

theorem effect_command_of_error {cause : FileError} (hroom : a.room argv env m = .error cause) :
    (effect (command o a argv env) m).1 = .error (.refused cause) := by
  obtain ⟨m₁, -, hmade, heq⟩ := effect_command o a argv env m
  rw [hroom] at hmade
  rw [heq, effect_bind_of_error (Prod.ext hmade rfl)]

theorem effect_command_of_ok (hroom : a.room argv env m = .ok ()) : ∃ m₁, m₁.tools = m.tools ∧
    effect (command o a argv env) m = effect (carriedOut o a argv env) m₁ := by
  obtain ⟨m₁, htools, hmade, heq⟩ := effect_command o a argv env m
  have hstate := effect_onTree .refused (FileTree.makeParents a.outputs) m₁
  cases hmake : effect (onTree .refused (FileTree.makeParents a.outputs)) m₁ with
  | mk result m₂ =>
    rw [hmake] at hmade hstate
    rw [hroom] at hmade
    cases hmade
    exact ⟨m₂, (congrArg Machine.tools hstate).trans htools, heq.trans (effect_bind_of_ok hmake)⟩

theorem stops_command {e : RunError} (hwork : a.work = .command argv env) (hargv : argv ≠ [])
    (h : (effect (command o a argv env) m).1 = .error e) : Stops o a m e := by
  have hnamed {t : ToolRun} (hn : a.Nameable o t) :
      (∀ p ∈ a.outputs ++ t.touches argv, p.hasNull = false) ∧
        (⟨argv, o.cwd, o.timeout, env⟩ : ToolCall).Nameable := by
    unfold Action.Nameable at hn
    rwa [hwork] at hn
  have hcodes : a.work.codes = toolCodes := by rw [hwork]; rfl
  cases hroom : a.room argv env m with
  | error cause =>
    rw [effect_command_of_error hroom] at h
    cases h
    by_cases hnull : cause = .nullInPath
    · subst hnull
      refine .unnamed fun hn => FileTree.fails_makeParents (fun p hp => ?_) _ _ hroom rfl
      exact (hnamed hn).1 p (List.mem_append_left _ hp)
    · exact .barred hnull ⟨argv, env, hwork, hroom⟩
  | ok =>
    obtain ⟨m₁, htools, heq⟩ := effect_command_of_ok hroom
    rw [heq] at h
    rcases error_of_effect_bind h with h | ⟨code, m₂, -, h⟩
    · rcases shaped_runTool h hargv with ⟨rfl, hname⟩ | hshaped
      · have hcalls : a.Calls o m ⟨argv, o.cwd, o.timeout, env⟩ :=
          ⟨by rw [Action.call?, hwork], hroom⟩
        exact .misnamed hcalls (ToolCall.hasIllegalVariable_iff.1 hname)
      · rw [htools, ← hcodes] at hshaped
        exact hshaped.stops fun hn =>
          ⟨fun p hp => (hnamed hn).1 p (List.mem_append_right _ hp), (hnamed hn).2⟩
    · split at h
      · cases h
        exact .failed (hcodes ▸ by simp [toolCodes, ActionFailure.code])
      · cases h

theorem failed_of_barred {e : FileError} (h : a.Barred m e) :
    (effect (action o a) m).1 = .error (.refused e) := by
  obtain ⟨argv, env, hwork, hroom⟩ := h
  rw [action_of_command hwork, effect_command_of_error hroom]

theorem failed_of_calls {call : ToolCall} {e : RunError} (h : a.Calls o m call)
    (hgiven : ∀ m, effect (handOver call) m = (.error e, m)) :
    (effect (action o a) m).1 = .error e := by
  obtain ⟨hcall, hroom⟩ := h
  unfold Action.call? at hcall
  split at hcall
  · next argv env hwork =>
    cases hcall
    obtain ⟨m₁, -, heq⟩ := effect_command_of_ok hroom
    have hrun : effect (runTool a.description ⟨argv, o.cwd, o.timeout, env⟩) m₁ = (.error e, m₁) :=
      effect_bind_of_error (hgiven m₁)
    rw [action_of_command hwork, heq, carriedOut, effect_bind_of_error hrun]
  · cases hcall

end Commands

theorem shaped_writeFile (dest : Path) (content : String) :
    Fails (Shaped ["stage_error"] (dest.hasNull = false)) (writeFile dest content) :=
  shaped_onTree (.write dest) (fun h =>
    (FileTree.fails_makeDirs true (Path.hasNull_parent h)).bind fun _ =>
      FileTree.fails_writeText h _ _) fun _ => List.mem_singleton.2 rfl

theorem stops_action {e : RunError} (hc : a.Complete) (h : (effect (action o a) m).1 = .error e) :
    Stops o a m e := by
  have hstops {named : Prop} (hs : Shaped ["stage_error"] named e)
      (hcodes : a.work.codes = ["stage_error"])
      (hn : a.Nameable o (m.tools.head?.getD {}) → named) : Stops o a m e :=
    Shaped.stops (hcodes ▸ hs) hn
  obtain ⟨description, outputs, inputs, work, install⟩ := a
  cases work with
  | stage copies links =>
    obtain ⟨dir, rest, rfl⟩ := List.exists_cons_of_ne_nil hc
    exact hstops (shaped_stage dir copies links _ _ h) rfl fun hn => hn dir rfl
  | write content =>
    obtain ⟨dest, rest, rfl⟩ := List.exists_cons_of_ne_nil hc
    exact hstops (shaped_writeFile dest content _ _ h) rfl fun hn => hn dest List.mem_cons_self
  | command argv env => exact stops_command rfl hc h
  | copy =>
    obtain ⟨source, sources, rfl⟩ := List.exists_cons_of_ne_nil hc.1
    obtain ⟨dest, dests, rfl⟩ := List.exists_cons_of_ne_nil hc.2
    exact hstops (shaped_placeFile source dest _ _ h) rfl fun hn =>
      ⟨hn source (by simp), hn dest (by simp)⟩

def Reaches (o : RunOptions) (as : List Action) (m₀ : Machine) (a : Action) (m : Machine) : Prop :=
  ∃ before after us, as = before ++ a :: after ∧ Chain (action o) before m₀ us m

theorem Reaches.stopped {e : RunError} (h : Reaches o as m₀ a m') (hrun : o.dryRun = false)
    (hlog : effect (openLog o bundle) m = (.ok (), m₀))
    (he : (effect (action o a) m').1 = .error e) :
    (effect (actions o bundle as) m).1 = .error e := by
  obtain ⟨before, after, us, rfl, hchain⟩ := h
  rw [actions_of_not_dryRun hrun, effect_bind_of_ok hlog, effect_bind_of_error
    (hchain.effect_forM_of_error (Prod.ext he rfl) after)]

theorem exists_stops {e : RunError} (hc : ∀ a ∈ as, a.Complete) (hrun : o.dryRun = false)
    (hlog : effect (openLog o bundle) m = (.ok (), m₀))
    (h : (effect (actions o bundle as) m).1 = .error e) :
    ∃ a m', Reaches o as m₀ a m' ∧ Stops o a m' e := by
  have hending := ending_actions hrun bundle as m
  rw [h] at hending
  cases hending with
  | unopened hfail => cases hlog.symm.trans hfail
  | @stopped before after a m₁ m₂ _ us _ hopened hchain hfail =>
    cases hlog.symm.trans hopened
    exact ⟨a, m₂, ⟨before, after, us, rfl, hchain⟩,
      stops_action (hc a (by simp)) (congrArg Prod.fst hfail)⟩

/-- A dry run always comes to its end. A real one fails, once its log is open, with a failure of an
action it has come to, under one of the codes for work of its kind, unless something there cannot be
named. A refusal of the system comes out as it is just when it bars a directory for what a tool is
to make; and a tool is called in vain just when a variable is named wrongly, or a word of the call
holds NUL. -/
theorem failures_in_shape (o : RunOptions) (bundle : String) (as : List Action)
    (hc : ∀ a ∈ as, a.Complete) (m : Machine) :
    (o.dryRun = true → ∃ report, (effect (actions o bundle as) m).1 = .ok report) ∧
    (o.dryRun = false → ∀ m₀, effect (openLog o bundle) m = (.ok (), m₀) →
      (∀ f, (effect (actions o bundle as) m).1 = .error (.failed f) →
        ∃ a m', Reaches o as m₀ a m' ∧ f.code ∈ a.work.codes) ∧
      (∀ e, e ≠ .nullInPath → ((effect (actions o bundle as) m).1 = .error (.refused e) ↔
        ∃ a m', Reaches o as m₀ a m' ∧ a.Barred m' e)) ∧
      ((effect (actions o bundle as) m).1 = .error (.refused .nullInPath) →
        ∃ a m', Reaches o as m₀ a m' ∧ ¬a.Nameable o (m'.tools.head?.getD {})) ∧
      (∀ a m' call, Reaches o as m₀ a m' → a.Calls o m' call →
        (∀ v ∈ call.env, '=' ∉ v.1.toList) → ¬call.Nameable →
          (effect (actions o bundle as) m).1 = .error (.refused .nullInPath)) ∧
      ((effect (actions o bundle as) m).1 = .error .illegalVariable ↔
        ∃ a m' call, Reaches o as m₀ a m' ∧ a.Calls o m' call ∧
          ∃ v ∈ call.env, '=' ∈ v.1.toList) ∧
      (effect (actions o bundle as) m).1 ≠ .error .incomplete) := by
  refine ⟨fun hdry => ?_, fun hrun m₀ hlog => ?_⟩
  · obtain ⟨m', -, ⟨-, he⟩ | ⟨hnot, -⟩⟩ := actions_told hdry bundle as m
    · exact ⟨_, congrArg Prod.fst he⟩
    · exact absurd (fun a ha => (hc a ha).tellable) hnot
  · have hstops {e : RunError} (he : (effect (actions o bundle as) m).1 = .error e) :=
      exists_stops hc hrun hlog he
    refine ⟨fun f he => ?_, fun e hne => ⟨fun he => ?_, ?_⟩, fun he => ?_, ?_, ⟨fun he => ?_, ?_⟩,
      fun he => ?_⟩
    · obtain ⟨a, m', hreach, hf⟩ := hstops he
      cases hf with
      | failed hcode => exact ⟨a, m', hreach, hcode⟩
    · obtain ⟨a, m', hreach, hf⟩ := hstops he
      cases hf with
      | barred _ hbarred => exact ⟨a, m', hreach, hbarred⟩
      | unnamed => exact absurd rfl hne
    · rintro ⟨a, m', hreach, hbarred⟩
      exact hreach.stopped hrun hlog (failed_of_barred hbarred)
    · obtain ⟨a, m', hreach, hf⟩ := hstops he
      cases hf with
      | barred hne _ => exact absurd rfl hne
      | unnamed hnamed => exact ⟨a, m', hreach, hnamed⟩
    · intro a m' call hreach hcalls hnames hnull
      exact hreach.stopped hrun hlog (failed_of_calls hcalls (effect_handOver_of_null hnames hnull))
    · obtain ⟨a, m', hreach, hf⟩ := hstops he
      cases hf with
      | misnamed hcalls hname => exact ⟨a, m', _, hreach, hcalls, hname⟩
    · rintro ⟨a, m', call, hreach, hcalls, hname⟩
      exact hreach.stopped hrun hlog (failed_of_calls hcalls (effect_handOver_of_illegal hname))
    · obtain ⟨a, m', -, hf⟩ := hstops he
      cases hf

def blockingAction : Action where
  description := "write w"
  outputs := [.ofString "w"]
  work := .write "x"

def blockedAction : Action where
  description := "pack"
  outputs := [.ofString "w/a"]
  work := .command ["t"] []

def loggedOptions : RunOptions where
  log := .ofString "build.log"

def loggedStart : Machine := (effect (openLog loggedOptions "com.example") { tree := {} }).2

theorem openLog_logged : effect (openLog loggedOptions "com.example") { tree := {} } =
    (.ok (), loggedStart) := effect_of_fst (by decide +kernel)

theorem failures_in_shape_blocked :
    (∀ a ∈ [blockingAction, blockedAction], a.Complete) ∧
      (∃ a m', Reaches loggedOptions [blockingAction, blockedAction] loggedStart a m' ∧
        a.Barred m' (.refused .exists "w")) ∧
      (effect (actions loggedOptions "com.example" [blockingAction, blockedAction])
        { tree := {} }).1 = .error (.refused (.refused .exists "w")) := by
  have hc : ∀ a ∈ [blockingAction, blockedAction], a.Complete := by decide
  have hfirst : effect (action loggedOptions blockingAction) loggedStart =
      (.ok (), (effect (action loggedOptions blockingAction) loggedStart).2) :=
    effect_of_fst (by decide +kernel)
  have hreach : ∃ a m', Reaches loggedOptions [blockingAction, blockedAction] loggedStart a m' ∧
      a.Barred m' (.refused .exists "w") :=
    ⟨blockedAction, _, ⟨[blockingAction], [], _, rfl, .cons hfirst .nil⟩, ["t"], [], rfl,
      by decide +kernel⟩
  obtain ⟨-, hrun⟩ :=
    failures_in_shape loggedOptions "com.example" [blockingAction, blockedAction] hc { tree := {} }
  obtain ⟨-, hrefused, -⟩ := hrun rfl loggedStart openLog_logged
  exact ⟨hc, hreach, (hrefused (.refused .exists "w") nofun).2 hreach⟩

def unnamedAction : Action where
  description := "write a file"
  outputs := [.ofString "a\x00b"]
  work := .write "x"

def callAction (argv : List String) (env : Environment) : Action where
  description := "call"
  outputs := []
  work := .command argv env

/-- Complete actions can fail with no failure of an action: when one has written a file where the
outputs of a tool need a directory, when what is to be written cannot be named, and when a word for
a tool or the name of a variable cannot be put to the system. -/
theorem failures_out_of_shape :
    (effect (openLog loggedOptions "com.example") { tree := {} }).1 = .ok () ∧
    (blockingAction.Complete ∧ blockedAction.Complete ∧
      (effect (actions loggedOptions "com.example" [blockingAction, blockedAction])
        { tree := {} }).1 = .error (.refused (.refused .exists "w"))) ∧
    (unnamedAction.Complete ∧
      (effect (actions loggedOptions "com.example" [unnamedAction]) { tree := {} }).1 =
        .error (.refused .nullInPath)) ∧
    ((callAction ["t", "a\x00b"] []).Complete ∧
      (effect (actions loggedOptions "com.example" [callAction ["t", "a\x00b"] []])
        { tree := {} }).1 = .error (.refused .nullInPath)) ∧
    (callAction ["t"] [("A=", "b")]).Complete ∧
      (effect (actions loggedOptions "com.example" [callAction ["t"] [("A=", "b")]])
        { tree := {} }).1 = .error .illegalVariable := by
  refine ⟨congrArg Prod.fst openLog_logged, ⟨by decide, by decide, ?_⟩, ⟨by decide, ?_⟩,
    ⟨by decide, ?_⟩, by decide, ?_⟩
  · decide +kernel
  · decide +kernel
  · decide +kernel
  · decide +kernel

end Run

end BundleWright
