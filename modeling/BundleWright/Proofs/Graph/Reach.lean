import BundleWright.Graph.Walk
/-!
What a walk shows. Main statements: a visitor whose answers hang on the edge alone is shown exactly
the edges out of the nodes it lets the walk reach, each of them once, and what it gathers is
gathered edge by edge in that order.
-/
namespace BundleWright.ModuleGraph

variable {σ : Type} {g : ModuleGraph} {enters : Edge → Bool} {root : NodeKey}

/-- The present keys that a walk comes to when it enters the child of an edge as `enters` says. -/
inductive Reached (g : ModuleGraph) (enters : Edge → Bool) (root : NodeKey) : NodeKey → Prop
  | root : Reached g enters root (g.keyOf root)
  | step {e : Edge} : Reached g enters root e.source → e ∈ g.edges → enters e = true →
      Reached g enters root (g.keyOf e.child)

def recorder (enters : Edge → Bool) : Visitor (List Edge) := fun l e => (enters e, l ++ [e])

def shown (g : ModuleGraph) (root : NodeKey) (enters : Edge → Bool) : List Edge :=
  g.walk root (recorder enters) []

theorem walkFrom_nil (visit : Visitor σ) (entered : List NodeKey) (s : σ) :
    walkFrom g visit entered [] s = s := by rw [walkFrom]

theorem walkFrom_pop (visit : Visitor σ) (entered : List NodeKey) (rest : List (List Edge))
    (s : σ) :
    walkFrom g visit entered ([] :: rest) s = walkFrom g visit entered rest s := by rw [walkFrom]

theorem walkFrom_enter {visit : Visitor σ} {entered : List NodeKey} {e : Edge} {s : σ}
    (he : (visit s e).1 = true) (hn : g.keyOf e.child ∉ entered) (es : List Edge)
    (rest : List (List Edge)) :
    walkFrom g visit entered ((e :: es) :: rest) s =
      walkFrom g visit (g.keyOf e.child :: entered) (g.dependencies e.child :: es :: rest)
        (visit s e).2 := by
  rw [walkFrom]
  simp only [he, hn, not_false_eq_true, and_self, ite_true]

theorem walkFrom_skip {visit : Visitor σ} {entered : List NodeKey} {e : Edge} {s : σ}
    (h : ¬((visit s e).1 = true ∧ g.keyOf e.child ∉ entered)) (es : List Edge)
    (rest : List (List Edge)) :
    walkFrom g visit entered ((e :: es) :: rest) s =
      walkFrom g visit entered (es :: rest) (visit s e).2 := by
  rw [walkFrom]
  simp only [h, ite_false]

section Agreeing

variable {g' : ModuleGraph} {visit : Visitor σ} (hk : ∀ id, g'.keyOf id = g.keyOf id)
  (hd : ∀ s e, (visit s e).1 = true → g'.dependencies e.child = g.dependencies e.child)
include hk hd

/-- A walk sees only the edges out of the nodes that the visitor lets it enter. -/
theorem walkFrom_eq (entered : List NodeKey) (pending : List (List Edge)) (s : σ) :
    walkFrom g' visit entered pending s = walkFrom g visit entered pending s := by
  fun_induction walkFrom g visit entered pending s with
  | case1 entered s => rw [walkFrom_nil]
  | case2 entered s rest ih => rw [walkFrom_pop, ih]
  | case3 entered s e es rest enter s' hs h ih =>
    have hv : (visit s e).1 = true := by rw [hs]; exact h.1
    rw [walkFrom_enter hv (by rw [hk]; exact h.2), hk, hd s e hv, hs, ih]
  | case4 entered s e es rest enter s' hs h ih =>
    rw [walkFrom_skip (by rw [hs, hk]; exact h), hs, ih]

theorem walk_eq (hroot : g'.dependencies root = g.dependencies root) (s : σ) :
    g'.walk root visit s = g.walk root visit s := by
  rw [walk, walk, walkFrom_eq hk hd, hk, hroot]

end Agreeing

section Congr

variable {g' : ModuleGraph} (hm : g'.members = g.members) (he : g'.edges = g.edges)
include hm

theorem node?_congr (id : NodeKey) : g'.node? id = g.node? id := by rw [node?, node?, hm]

theorem keyOf_congr (id : NodeKey) : g'.keyOf id = g.keyOf id := by
  rw [keyOf, keyOf, node?_congr hm]

include he

theorem dependencies_congr (id : NodeKey) : g'.dependencies id = g.dependencies id := by
  rw [dependencies, dependencies, he, keyOf_congr hm]

theorem walk_congr (root : NodeKey) (visit : Visitor σ) (s : σ) :
    g'.walk root visit s = g.walk root visit s :=
  walk_eq (keyOf_congr hm) (fun _ e _ => dependencies_congr hm he e.child)
    (dependencies_congr hm he root) s

end Congr

theorem walkFrom_eq_foldl {visit : Visitor σ} (hv : ∀ s e, (visit s e).1 = enters e)
    (entered : List NodeKey) (pending : List (List Edge)) (s : σ) (before : List Edge) :
    ∃ after, walkFrom g (recorder enters) entered pending before = before ++ after ∧
      walkFrom g visit entered pending s = after.foldl (fun s e => (visit s e).2) s := by
  fun_induction walkFrom g visit entered pending s generalizing before with
  | case1 entered s => exact ⟨[], by rw [walkFrom_nil, List.append_nil], rfl⟩
  | case2 entered s rest ih => simpa only [walkFrom_pop] using ih before
  | case3 entered s e es rest enter s' hs h ih =>
    have he : enters e = true := by
      rw [← hv s e, hs]
      exact h.1
    obtain ⟨after, h1, h2⟩ := ih (before ++ [e])
    refine ⟨e :: after, ?_, ?_⟩
    · rw [walkFrom_enter he h.2]
      simpa [recorder] using h1
    · simp only [List.foldl_cons, hs]
      exact h2
  | case4 entered s e es rest enter s' hs h ih =>
    have he : ¬((recorder enters before e).1 = true ∧ g.keyOf e.child ∉ entered) := by
      simpa [recorder, hs, ← hv s e] using h
    obtain ⟨after, h1, h2⟩ := ih (before ++ [e])
    refine ⟨e :: after, ?_, ?_⟩
    · rw [walkFrom_skip he]
      simpa [recorder] using h1
    · simp only [List.foldl_cons, hs]
      exact h2

theorem walk_eq_foldl_shown {visit : Visitor σ} (hv : ∀ s e, (visit s e).1 = enters e) (s : σ) :
    g.walk root visit s = (g.shown root enters).foldl (fun s e => (visit s e).2) s := by
  obtain ⟨after, h1, h2⟩ := walkFrom_eq_foldl (g := g) hv [g.keyOf root] [g.dependencies root] s []
  have hs : g.shown root enters = after := h1
  rw [hs]
  exact h2

/-- The state of a walk between two steps: what has been shown and what is pending are the edges
out of the entered nodes, and children that may be entered have been. -/
structure Front (g : ModuleGraph) (enters : Edge → Bool) (root : NodeKey)
    (entered : List NodeKey) (pending : List (List Edge)) (before : List Edge) : Prop where
  root_mem : g.keyOf root ∈ entered
  reached : ∀ k ∈ entered, Reached g enters root k
  edges : (before ++ pending.flatten).Perm (g.edges.filter (·.source ∈ entered))
  closed : ∀ e ∈ before, enters e = true → g.keyOf e.child ∈ entered

namespace Front

variable {entered : List NodeKey} {rest : List (List Edge)} {es before : List Edge} {e : Edge}

theorem start : Front g enters root [g.keyOf root] [g.dependencies root] [] where
  root_mem := by simp
  reached := by
    intro k hk
    rw [List.mem_singleton.1 hk]
    exact .root
  edges := by simp [dependencies]
  closed := by simp

theorem mem_edges (h : Front g enters root entered ((e :: es) :: rest) before) :
    e ∈ g.edges ∧ e.source ∈ entered := by
  have hm : e ∈ before ++ ((e :: es) :: rest).flatten := by simp
  simpa using h.edges.mem_iff.1 hm

theorem pop (h : Front g enters root entered ([] :: rest) before) :
    Front g enters root entered rest before where
  root_mem := h.root_mem
  reached := h.reached
  edges := by simpa using h.edges
  closed := h.closed

theorem skip (h : Front g enters root entered ((e :: es) :: rest) before)
    (hs : enters e = true → g.keyOf e.child ∈ entered) :
    Front g enters root entered (es :: rest) (before ++ [e]) where
  root_mem := h.root_mem
  reached := h.reached
  edges := by simpa using h.edges
  closed := by
    intro d hd he
    rcases List.mem_append.1 hd with hd | hd
    · exact h.closed d hd he
    · rw [List.mem_singleton.1 hd] at he ⊢
      exact hs he

theorem enter (h : Front g enters root entered ((e :: es) :: rest) before)
    (he : enters e = true) (hn : g.keyOf e.child ∉ entered) :
    Front g enters root (g.keyOf e.child :: entered) (g.dependencies e.child :: es :: rest)
      (before ++ [e]) where
  root_mem := List.mem_cons_of_mem _ h.root_mem
  reached := by
    intro k hk
    rcases List.mem_cons.1 hk with rfl | hk
    · obtain ⟨hm, hsource⟩ := h.mem_edges
      exact .step (h.reached _ hsource) hm he
    · exact h.reached k hk
  edges := by
    have hsplit : (g.edges.filter (·.source ∈ g.keyOf e.child :: entered)).Perm
        (g.dependencies e.child ++ g.edges.filter (·.source ∈ entered)) := by
      unfold dependencies
      generalize g.keyOf e.child = k at hn
      induction g.edges with
      | nil => simp
      | cons d ds ih =>
        by_cases hk : d.source = k
        · have hd : d.source ∉ entered := hk ▸ hn
          simpa [hk, hn] using ih
        · by_cases hd : d.source ∈ entered
          · simp only [List.mem_cons, hk, hd, or_true, decide_true, List.filter_cons_of_pos,
              decide_false, Bool.false_eq_true, not_false_eq_true, List.filter_cons_of_neg] at ih ⊢
            exact (ih.cons d).trans List.perm_middle.symm
          · simpa [hk, hd] using ih
    refine List.Perm.trans ?_ hsplit.symm
    have hp := h.edges
    simp only [List.flatten_cons, List.cons_append, List.append_assoc] at hp ⊢
    refine List.Perm.trans ?_ (hp.append_left (g.dependencies e.child))
    grind
  closed := by
    intro d hd hed
    rcases List.mem_append.1 hd with hd | hd
    · exact List.mem_cons_of_mem _ (h.closed d hd hed)
    · rw [List.mem_singleton.1 hd]
      exact List.mem_cons_self

/-- At the end of the walk nothing is pending, and with more lists behind the pending ones a walk
goes on from there. -/
theorem run_append {pending : List (List Edge)} (h : Front g enters root entered pending before)
    (later : List (List Edge)) :
    ∃ all, Front g enters root all [] (walkFrom g (recorder enters) entered pending before) ∧
      walkFrom g (recorder enters) entered (pending ++ later) before =
        walkFrom g (recorder enters) all later
          (walkFrom g (recorder enters) entered pending before) := by
  fun_induction walkFrom g (recorder enters) entered pending before with
  | case1 entered before => exact ⟨entered, h, rfl⟩
  | case2 entered before rest ih =>
    rw [List.cons_append, walkFrom_pop]
    exact ih h.pop
  | case3 entered before e es rest enter l hl hn ih =>
    obtain ⟨rfl, rfl⟩ : enters e = enter ∧ before ++ [e] = l := by simpa [recorder] using hl
    rw [List.cons_append, walkFrom_enter hn.1 hn.2]
    exact ih (h.enter hn.1 hn.2)
  | case4 entered before e es rest enter l hl hn ih =>
    obtain ⟨rfl, rfl⟩ : enters e = enter ∧ before ++ [e] = l := by simpa [recorder] using hl
    rw [List.cons_append, walkFrom_skip hn]
    refine ih (h.skip fun he => ?_)
    exact Decidable.not_not.1 fun hm => hn ⟨he, hm⟩

theorem run {pending : List (List Edge)} (h : Front g enters root entered pending before) :
    ∃ all, Front g enters root all [] (walkFrom g (recorder enters) entered pending before) := by
  obtain ⟨all, h, _⟩ := h.run_append []
  exact ⟨all, h⟩

/-- A finished walk has entered exactly what can be reached. -/
theorem mem_entered_iff (h : Front g enters root entered [] before) {k : NodeKey} :
    k ∈ entered ↔ Reached g enters root k := by
  refine ⟨h.reached k, fun hk => ?_⟩
  induction hk with
  | root => exact h.root_mem
  | @step e _ hm he ih =>
    refine h.closed e ?_ he
    have hp : before.Perm (g.edges.filter (·.source ∈ entered)) := by simpa using h.edges
    exact hp.mem_iff.2 (List.mem_filter.2 ⟨hm, by simpa using ih⟩)

end Front

/-- The edges shown are those that leave reached nodes, each as often as the graph has it. -/
theorem shown_perm (g : ModuleGraph) (root : NodeKey) (enters : Edge → Bool) :
    ∃ entered : List NodeKey, (∀ k, k ∈ entered ↔ Reached g enters root k) ∧
      (g.shown root enters).Perm (g.edges.filter (·.source ∈ entered)) := by
  have hs : Front g enters root [g.keyOf root] [g.dependencies root] [] := Front.start
  obtain ⟨entered, h⟩ := hs.run
  have hp := h.edges
  rw [List.flatten_nil, List.append_nil] at hp
  exact ⟨entered, fun k => h.mem_entered_iff, hp⟩

theorem mem_shown_iff {e : Edge} :
    e ∈ g.shown root enters ↔ e ∈ g.edges ∧ Reached g enters root e.source := by
  obtain ⟨entered, hk, hp⟩ := g.shown_perm root enters
  rw [hp.mem_iff, List.mem_filter, ← hk]
  simp

/-- A visitor that enters at least what another one enters, nodes without edges apart, comes to
every node that the other one finds edges at. -/
theorem Reached.covered {enters' : Edge → Bool} (h : ∀ e ∈ g.edges, enters e = true →
      enters' e = true ∨ ∀ d ∈ g.edges, d.source ≠ g.keyOf e.child) {k : NodeKey}
    (hk : Reached g enters root k) :
    Reached g enters' root k ∨ ∀ d ∈ g.edges, d.source ≠ k := by
  induction hk with
  | root => exact .inl .root
  | @step e _ hm he ih =>
    have hsource : Reached g enters' root e.source := ih.resolve_right fun hd => hd e hm rfl
    exact (h e hm he).imp_left (.step hsource hm)

theorem mem_shown_of_covered {enters' : Edge → Bool} (h : ∀ e ∈ g.edges, enters e = true →
      enters' e = true ∨ ∀ d ∈ g.edges, d.source ≠ g.keyOf e.child) {e : Edge}
    (he : e ∈ g.shown root enters) : e ∈ g.shown root enters' := by
  obtain ⟨hm, hr⟩ := mem_shown_iff.1 he
  exact mem_shown_iff.2 ⟨hm, (hr.covered h).resolve_right fun hd => hd e hm rfl⟩

end BundleWright.ModuleGraph
