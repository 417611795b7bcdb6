import BundleWright.Proofs.Graph.Reach
/-!
The walk beside the recursion it stands for. Main statement: a walk calls its visitor with the same
edges in the same states as the recursion that goes through all that is below a child, once it may be
entered, before it comes to the next edge.
-/
namespace BundleWright.ModuleGraph

variable {σ : Type} {g : ModuleGraph} {visit : Visitor σ} {entered : List NodeKey}

theorem unentered_le_of_subset {entered' : List NodeKey} (h : entered ⊆ entered') :
    unentered g entered' ≤ unentered g entered := by
  unfold unentered
  rw [← List.countP_eq_length_filter, ← List.countP_eq_length_filter]
  refine List.countP_mono_left fun e _ he => ?_
  have hnot : e.source ∉ entered' := by simpa using he
  simpa using fun hm => hnot (h hm)

structure Descent (σ : Type) where
  entered : List NodeKey
  calls : List (σ × Edge)
  state : σ

/-- Goes through some edges in their order. A child that the visitor admits is entered unless it has
been, and the edges out of it come before the next edge. Nodes that have been entered stay so. -/
def explore (g : ModuleGraph) (visit : Visitor σ) (entered : List NodeKey) (edges : List Edge)
    (s : σ) : { d : Descent σ // entered ⊆ d.entered } :=
  match edges with
  | [] => ⟨⟨entered, [], s⟩, List.Subset.refl _⟩
  | e :: es =>
    let (admits, s') := visit s e
    if _h : admits ∧ g.keyOf e.child ∉ entered then
      let ⟨below, hbelow⟩ :=
        explore g visit (g.keyOf e.child :: entered) (g.dependencies e.child) s'
      let ⟨after, hafter⟩ := explore g visit below.entered es below.state
      ⟨{ after with calls := (s, e) :: (below.calls ++ after.calls) },
        fun _ hk => hafter (hbelow (List.mem_cons_of_mem _ hk))⟩
    else
      let ⟨after, hafter⟩ := explore g visit entered es s'
      ⟨{ after with calls := (s, e) :: after.calls }, hafter⟩
  termination_by unentered g entered + edges.length
  decreasing_by
    · have hu := unentered_cons g _h.2
      simp only [List.length_cons]
      omega
    · have hu := unentered_cons g _h.2
      have hle := unentered_le_of_subset (g := g) hbelow
      simp only [List.length_cons]
      omega
    · simp

def exploration (g : ModuleGraph) (root : NodeKey) (visit : Visitor σ) (s : σ) : Descent σ :=
  (g.explore visit [g.keyOf root] (g.dependencies root) s).1

def traced (visit : Visitor σ) : Visitor (List (σ × Edge) × σ) := fun (calls, s) e =>
  ((visit s e).1, calls ++ [(s, e)], (visit s e).2)

theorem walkFrom_traced (pending : List (List Edge)) (calls : List (σ × Edge)) (s : σ) :
    (walkFrom g (traced visit) entered pending (calls, s)).2 =
      walkFrom g visit entered pending s := by
  fun_induction walkFrom g visit entered pending s generalizing calls with
  | case1 entered s => rw [walkFrom_nil]
  | case2 entered s rest ih => rw [walkFrom_pop, ih]
  | case3 entered s e es rest admits s' hs h ih =>
    have he : (traced visit (calls, s) e).1 = true := by
      rw [traced, hs]
      exact h.1
    rw [walkFrom_enter he h.2, traced, hs, ih]
  | case4 entered s e es rest admits s' hs h ih =>
    rw [walkFrom_skip (by rw [traced, hs]; exact h), traced, hs, ih]

/-- The innermost list of a walk is one call of the recursion, and the lists behind it are what the
recursion has still to come back to. -/
theorem walkFrom_eq_explore (edges : List Edge) (rest : List (List Edge))
    (calls : List (σ × Edge)) (s : σ) :
    walkFrom g (traced visit) entered (edges :: rest) (calls, s) =
      walkFrom g (traced visit) (g.explore visit entered edges s).1.entered rest
        (calls ++ (g.explore visit entered edges s).1.calls,
          (g.explore visit entered edges s).1.state) := by
  fun_induction explore g visit entered edges s generalizing rest calls with
  | case1 entered s => rw [walkFrom_pop, List.append_nil]
  | case2 entered s e es admits s' hs h below _ hbelow after _ hafter ihbelow ihafter =>
    have he : (traced visit (calls, s) e).1 = true := by
      rw [traced, hs]
      exact h.1
    rw [walkFrom_enter he h.2, traced, hs, ihbelow, hbelow, ihafter, hafter]
    simp only [List.append_assoc, List.cons_append, List.nil_append]
  | case3 entered s e es admits s' hs h after _ hafter ih =>
    rw [walkFrom_skip (by rw [traced, hs]; exact h), traced, hs, ih, hafter]
    simp only [List.append_assoc, List.cons_append, List.nil_append]

/-- For every graph, root and visitor, a walk makes the calls of the recursion, in the same order and
states, and leaves the visitor in the same state. -/
theorem walk_eq_recursion (g : ModuleGraph) (root : NodeKey) (visit : Visitor σ) (s : σ) :
    g.walk root (traced visit) ([], s) =
        ((g.exploration root visit s).calls, (g.exploration root visit s).state) ∧
      g.walk root visit s = (g.exploration root visit s).state := by
  have hcalls : g.walk root (traced visit) ([], s) =
      ((g.exploration root visit s).calls, (g.exploration root visit s).state) := by
    rw [walk, walkFrom_eq_explore, walkFrom_nil, List.nil_append]
    rfl
  refine ⟨hcalls, ?_⟩
  calc g.walk root visit s
    _ = (g.walk root (traced visit) ([], s)).2 := (walkFrom_traced _ [] s).symm
    _ = (g.exploration root visit s).state := by rw [hcalls]

end BundleWright.ModuleGraph
