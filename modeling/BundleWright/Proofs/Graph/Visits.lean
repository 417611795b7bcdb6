import BundleWright.Proofs.Graph.Reach
import Mathlib.Order.Bounds.Defs
/-!
How often a walk shows each edge, and when it ends. Main statement: a walk ends whatever its visitor
answers, and one whose visitor answers by the edge alone calls it once for each edge that leaves the
least set of nodes closed under the edges it is let through, and for no other edge.
-/
namespace BundleWright.ModuleGraph

variable {σ : Type} {g : ModuleGraph} {enters : Edge → Bool} {root : NodeKey}

section Turns

structure Stand (σ : Type) where
  entered : List NodeKey
  pending : List (List Edge)
  state : σ

def firstStand (g : ModuleGraph) (root : NodeKey) (s : σ) : Stand σ :=
  ⟨[g.keyOf root], [g.dependencies root], s⟩

/-- One turn of the loop: the innermost list is left when it is used up, and otherwise its next edge
is shown. -/
def turn (g : ModuleGraph) (visit : Visitor σ) : Stand σ → Option (Stand σ)
  | ⟨_, [], _⟩ => none
  | ⟨entered, [] :: rest, s⟩ => some ⟨entered, rest, s⟩
  | ⟨entered, (e :: es) :: rest, s⟩ =>
    let (enter, s) := visit s e
    if enter ∧ g.keyOf e.child ∉ entered then
      some ⟨g.keyOf e.child :: entered, g.dependencies e.child :: es :: rest, s⟩
    else some ⟨entered, es :: rest, s⟩

inductive Ends (g : ModuleGraph) (visit : Visitor σ) : Nat → Stand σ → σ → Prop
  | done {a : Stand σ} : g.turn visit a = none → Ends g visit 0 a a.state
  | turn {a b : Stand σ} {n : Nat} {s : σ} : g.turn visit a = some b → Ends g visit n b s →
      Ends g visit (n + 1) a s

/-- Every turn takes one from the measure at least, for an edge is counted twice while it may still
come, and a list once more. -/
theorem ends_walkFrom (visit : Visitor σ) (entered : List NodeKey) (pending : List (List Edge))
    (s : σ) : ∃ n ≤ 2 * unentered g entered + pendingSize pending,
      Ends g visit n ⟨entered, pending, s⟩ (walkFrom g visit entered pending s) := by
  fun_induction walkFrom g visit entered pending s with
  | case1 entered s => exact ⟨0, Nat.zero_le _, .done rfl⟩
  | case2 entered s rest ih =>
    obtain ⟨n, hn, ends⟩ := ih
    refine ⟨n + 1, ?_, .turn rfl ends⟩
    simp only [pendingSize, List.length_nil]
    omega
  | case3 entered s e es rest enter s' hs h ih =>
    obtain ⟨n, hn, ends⟩ := ih
    have hturn : g.turn visit ⟨entered, (e :: es) :: rest, s⟩ =
        some ⟨g.keyOf e.child :: entered, g.dependencies e.child :: es :: rest, s'⟩ := by
      simp only [turn, hs, h, not_false_eq_true, and_self, ite_true]
    refine ⟨n + 1, ?_, .turn hturn ends⟩
    have hu := unentered_cons g h.2
    simp only [pendingSize, List.length_cons] at hn ⊢
    omega
  | case4 entered s e es rest enter s' hs h ih =>
    obtain ⟨n, hn, ends⟩ := ih
    have hturn : g.turn visit ⟨entered, (e :: es) :: rest, s⟩ = some ⟨entered, es :: rest, s'⟩ := by
      simp only [turn, hs, h, ite_false]
    refine ⟨n + 1, ?_, .turn hturn ends⟩
    simp only [pendingSize, List.length_cons] at hn ⊢
    omega

theorem ends_walk (g : ModuleGraph) (root : NodeKey) (visit : Visitor σ) (s : σ) :
    ∃ n ≤ 2 * g.edges.length + 1, Ends g visit n (g.firstStand root s) (g.walk root visit s) := by
  obtain ⟨n, hn, ends⟩ := ends_walkFrom (g := g) visit [g.keyOf root] [g.dependencies root] s
  refine ⟨n, ?_, ends⟩
  have hfirst : g.keyOf root ∉ ([] : List NodeKey) := List.not_mem_nil
  have hu := unentered_cons g hfirst
  have hall : unentered g [] = g.edges.length := by simp [unentered]
  simp only [pendingSize] at hn
  omega

end Turns

/-- A set of nodes that holds the root and whatever an edge leads to out of it that is entered. -/
structure WalkClosed (g : ModuleGraph) (enters : Edge → Bool) (root : NodeKey)
    (nodes : Set NodeKey) : Prop where
  root_mem : g.keyOf root ∈ nodes
  child_mem : ∀ e ∈ g.edges, e.source ∈ nodes → enters e = true → g.keyOf e.child ∈ nodes

theorem isLeast_reached (g : ModuleGraph) (enters : Edge → Bool) (root : NodeKey) :
    IsLeast {nodes | WalkClosed g enters root nodes} {k | Reached g enters root k} := by
  constructor
  · exact ⟨Reached.root, fun e he hsource hent => Reached.step hsource he hent⟩
  · intro nodes hnodes k hk
    induction hk with
    | root => exact hnodes.root_mem
    | @step e _ he hent ih => exact hnodes.child_mem e he ih hent

theorem count_shown {e : Edge} (h : Reached g enters root e.source) :
    (g.shown root enters).count e = g.edges.count e := by
  obtain ⟨entered, hk, hp⟩ := g.shown_perm root enters
  rw [hp.count_eq]
  exact List.count_filter (by simpa [hk] using h)

/-- A walk comes to an end, and a visitor that decides by the edge alone is shown each edge out of
the nodes that are reached, once, and no other: these nodes are the least set that the walk cannot
leave. -/
theorem walk_shows_each_edge_once (g : ModuleGraph) (root : NodeKey) (enters : Edge → Bool) :
    ∃ nodes : Set NodeKey, IsLeast {nodes | WalkClosed g enters root nodes} nodes ∧
    ∃ calls : List Edge,
      (∀ e, e.source ∈ nodes → calls.count e = g.edges.count e) ∧
      (∀ e, e.source ∉ nodes → e ∉ calls) ∧
      ∀ (σ : Type) (visit : Visitor σ) (s : σ),
        (∃ n ≤ 2 * g.edges.length + 1,
          Ends g visit n (g.firstStand root s) (g.walk root visit s)) ∧
        ((∀ s e, (visit s e).1 = enters e) →
          g.walk root visit s = calls.foldl (fun s e => (visit s e).2) s) := by
  refine ⟨{k | Reached g enters root k}, isLeast_reached g enters root, g.shown root enters,
    fun e he => count_shown he, ?_, ?_⟩
  · intro e he hm
    exact he (mem_shown_iff.1 hm).2
  · intro σ visit s
    exact ⟨ends_walk g root visit s, fun hv => walk_eq_foldl_shown hv s⟩

theorem foldl_recorder (calls before : List Edge) :
    calls.foldl (fun l e => (recorder enters l e).2) before = before ++ calls := by
  induction calls generalizing before with
  | nil => simp
  | cons e es ih =>
    rw [List.foldl_cons, ih]
    simp [recorder]

def tangle : ModuleGraph where
  edges := [⟨⟨"a", ""⟩, ⟨"b", ""⟩, .moduleDep, ⟨"a", ""⟩⟩,
    ⟨⟨"a", ""⟩, ⟨"b", ""⟩, .moduleDep, ⟨"a", ""⟩⟩, ⟨⟨"b", ""⟩, ⟨"b", ""⟩, .moduleDep, ⟨"b", ""⟩⟩,
    ⟨⟨"b", ""⟩, ⟨"a", ""⟩, .moduleDep, ⟨"b", ""⟩⟩, ⟨⟨"b", ""⟩, ⟨"c", ""⟩, .moduleDep, ⟨"b", ""⟩⟩,
    ⟨⟨"c", ""⟩, ⟨"a", ""⟩, .moduleDep, ⟨"c", ""⟩⟩]

/-- The two edges alike are shown one by one, and the edge out of the node that is kept out of is
not. -/
theorem walk_shows_each_edge_once_tangle :
    ∃ enters : Edge → Bool, enters ⟨⟨"b", ""⟩, ⟨"c", ""⟩, .moduleDep, ⟨"b", ""⟩⟩ = false ∧
      (tangle.shown ⟨"a", ""⟩ enters).count ⟨⟨"a", ""⟩, ⟨"b", ""⟩, .moduleDep, ⟨"a", ""⟩⟩ = 2 ∧
      (⟨⟨"c", ""⟩, ⟨"a", ""⟩, .moduleDep, ⟨"c", ""⟩⟩ : Edge) ∉ tangle.shown ⟨"a", ""⟩ enters := by
  let enters : Edge → Bool := fun e => e.child.name ≠ "c"
  obtain ⟨nodes, hleast, calls, hcount, hnone, hrun⟩ :=
    walk_shows_each_edge_once tangle ⟨"a", ""⟩ enters
  have hshown : tangle.shown ⟨"a", ""⟩ enters = calls := by
    have hfold := (hrun _ (recorder enters) []).2 fun _ _ => rfl
    rwa [foldl_recorder, List.nil_append] at hfold
  have hroot : (⟨"a", ""⟩ : NodeKey) ∈ nodes := hleast.1.root_mem
  have hclosed : WalkClosed tangle enters ⟨"a", ""⟩ {k | k.name ≠ "c"} := by
    constructor
    · show (tangle.keyOf ⟨"a", ""⟩).name ≠ "c"
      decide
    · show ∀ e ∈ tangle.edges, e.source.name ≠ "c" → enters e = true →
        (tangle.keyOf e.child).name ≠ "c"
      decide
  refine ⟨enters, by decide, ?_, ?_⟩
  · rw [hshown, hcount _ hroot]
    decide
  · rw [hshown]
    exact hnone _ fun hc => hleast.2 hclosed hc rfl

end BundleWright.ModuleGraph
