import BundleWright.Graph
/-!
Walking the graph depth first. Every edge out of an entered node is shown to a visitor, whose answer
says whether its child may be entered; a node is entered once at most.
-/
namespace BundleWright.ModuleGraph

variable {σ : Type}

/-- What happens on an edge: whether to enter its child, and the visitor's next state. -/
abbrev Visitor (σ : Type) := σ → Edge → Bool × σ

/-- How many edges leave nodes that have not been entered yet. -/
def unentered (g : ModuleGraph) (entered : List NodeKey) : Nat :=
  (g.edges.filter fun e => !entered.contains e.source).length

/-- The edges and lists still to go through, an edge counted twice. -/
def pendingSize : List (List Edge) → Nat
  | [] => 0
  | es :: rest => 2 * es.length + 1 + pendingSize rest

/-- To enter a node is to turn its edges into pending ones. -/
theorem unentered_cons (g : ModuleGraph) {entered : List NodeKey} {id : NodeKey}
    (hk : g.keyOf id ∉ entered) :
    unentered g (g.keyOf id :: entered) + (g.dependencies id).length = unentered g entered := by
  unfold unentered dependencies
  induction g.edges with
  | nil => rfl
  | cons e es ih =>
    by_cases he : e.source = g.keyOf id
    · simp [he, hk] at ih ⊢; omega
    · by_cases hm : e.source ∈ entered <;> simp [he, hm] at ih ⊢ <;> omega

/-- Goes on with the lists of edges that are still to be shown, the innermost first; `entered` are
the present keys of the nodes entered so far. -/
def walkFrom (g : ModuleGraph) (visit : Visitor σ) (entered : List NodeKey)
    (pending : List (List Edge)) (s : σ) : σ :=
  match pending with
  | [] => s
  | [] :: rest => walkFrom g visit entered rest s
  | (e :: es) :: rest =>
    let (enter, s) := visit s e
    if enter ∧ g.keyOf e.child ∉ entered then
      walkFrom g visit (g.keyOf e.child :: entered) (g.dependencies e.child :: es :: rest) s
    else walkFrom g visit entered (es :: rest) s
  termination_by 2 * unentered g entered + pendingSize pending
  decreasing_by
    · simp [pendingSize]
    · next h =>
      have hu := unentered_cons g h.2
      simp only [pendingSize, List.length_cons]
      omega
    · simp only [pendingSize, List.length_cons]
      omega

/-- Shows the edges reachable from `root` to the visitor, depth first. -/
def walk (g : ModuleGraph) (root : NodeKey) (visit : Visitor σ) (s : σ) : σ :=
  walkFrom g visit [g.keyOf root] [g.dependencies root] s

end BundleWright.ModuleGraph
