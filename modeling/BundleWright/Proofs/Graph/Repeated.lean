import BundleWright.Proofs.Graph.Reach
/-!
Edges that are there more than once. Main statement: a walk from a root whose edges are repeated
behind the others is shown what it was shown without them, and then the repeated edges.
-/
namespace BundleWright.ModuleGraph

variable {σ : Type} {g g' : ModuleGraph} {enters : Edge → Bool} {root : NodeKey}
  {visit : Visitor σ} {entered : List NodeKey} {pending pending' : List (List Edge)}
  {before again : List Edge}

theorem walkFrom_empties {empties : List (List Edge)} (h : ∀ l ∈ empties, l = []) (s : σ) :
    walkFrom g visit entered (empties ++ pending) s = walkFrom g visit entered pending s := by
  induction empties with
  | nil => rfl
  | cons l empties ih =>
    rw [h l List.mem_cons_self, List.cons_append, walkFrom_pop]
    exact ih fun k hk => h k (List.mem_cons_of_mem _ hk)

/-- How the pending edges are split into lists makes no difference. -/
theorem walkFrom_flatten (h : pending'.flatten = pending.flatten) (s : σ) :
    walkFrom g visit entered pending' s = walkFrom g visit entered pending s := by
  fun_induction walkFrom g visit entered pending s generalizing pending' with
  | case1 entered s =>
    rw [← List.append_nil pending', walkFrom_empties (List.flatten_eq_nil_iff.1 h), walkFrom_nil]
  | case2 entered s rest ih => exact ih h
  | case3 entered s e es rest enter s' hs hn ih =>
    obtain ⟨empties, es', rest', rfl, hempty, hes⟩ := List.flatten_eq_cons_iff.1 h
    have hv : (visit s e).1 = true := by
      rw [hs]
      exact hn.1
    rw [walkFrom_empties hempty, walkFrom_enter hv hn.2, hs]
    exact ih (by simpa using hes.symm)
  | case4 entered s e es rest enter s' hs hn ih =>
    obtain ⟨empties, es', rest', rfl, hempty, hes⟩ := List.flatten_eq_cons_iff.1 h
    rw [walkFrom_empties hempty, walkFrom_skip (by rw [hs]; exact hn), hs]
    exact ih (by simpa using hes.symm)

/-- Edges to nodes that need not be entered any more are shown, and that is all. -/
theorem walkFrom_of_closed (h : ∀ e ∈ again, enters e = true → g.keyOf e.child ∈ entered) :
    walkFrom g (recorder enters) entered [again] before = before ++ again := by
  induction again generalizing before with
  | nil => rw [walkFrom_pop, walkFrom_nil, List.append_nil]
  | cons e es ih =>
    have hskip : ¬((recorder enters before e).1 = true ∧ g.keyOf e.child ∉ entered) :=
      fun hn => hn.2 (h e List.mem_cons_self hn.1)
    rw [walkFrom_skip hskip, ih fun d hd => h d (List.mem_cons_of_mem _ hd)]
    simp [recorder]

theorem shown_of_repeated (hk : ∀ id, g'.keyOf id = g.keyOf id)
    (hd : ∀ e, enters e = true → g'.dependencies e.child = g.dependencies e.child)
    (hroot : g'.dependencies root = g.dependencies root ++ again)
    (hagain : ∀ e ∈ again, e ∈ g.dependencies root) :
    g'.shown root enters = g.shown root enters ++ again := by
  have hstart : Front g enters root [g.keyOf root] [g.dependencies root] [] := Front.start
  obtain ⟨all, hfront, hlater⟩ := hstart.run_append [again]
  have hsplit : [g.dependencies root ++ again].flatten = [g.dependencies root, again].flatten := by
    simp
  have hshown : g'.shown root enters =
      walkFrom g (recorder enters) all [again] (g.shown root enters) := by
    rw [shown, walk, walkFrom_eq hk (fun _ e he => hd e he), hk, hroot, walkFrom_flatten hsplit]
    exact hlater
  -- a repeated edge has been shown before, so its child has been entered if it may be
  refine hshown.trans (walkFrom_of_closed fun e he => hfront.closed e ?_)
  obtain ⟨hm, hs⟩ := List.mem_filter.1 (hagain e he)
  exact mem_shown_iff.2 ⟨hm, of_decide_eq_true hs ▸ .root⟩

end BundleWright.ModuleGraph
