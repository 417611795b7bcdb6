import BundleWright.Node
/-!
The module graph: nodes, typed edges between them, and variants of nodes made for one bundle.
A node is known by the key it was registered with, and found by the key it has at present; the two are
the same until its fields are changed. Main statement: adding a node keeps the nodes apart.
-/
namespace BundleWright

inductive Tag where
  | sharedLib
  | executable
  | javaLib
  | prebuilt
  | key
  | certificate
  /-- The module itself declares the dependency. -/
  | moduleDep
  deriving DecidableEq, Repr

namespace Tag

def all : List Tag := [.sharedLib, .executable, .javaLib, .prebuilt, .key, .certificate, .moduleDep]

def word : Tag → String
  | .sharedLib => "sharedLib"
  | .executable => "executable"
  | .javaLib => "javaLib"
  | .prebuilt => "prebuilt"
  | .key => "key"
  | .certificate => "certificate"
  | .moduleDep => "moduleDep"

end Tag

structure Edge where
  parent : NodeKey
  child : NodeKey
  tag : Tag
  /-- The key that the parent had when the edge was added; edges are looked up by it. -/
  source : NodeKey
  deriving DecidableEq, Repr

structure Variant where
  node : NodeKey
  name : String
  /-- The key that the node had when the variant was made; variants are looked up by it. -/
  source : NodeKey
  deriving DecidableEq, Repr

abbrev Selector := List (String × String)

structure Member where
  /-- The key that the node was registered with. It stands for the node from then on, whatever
  becomes of its fields. -/
  id : NodeKey
  node : Node
  deriving Repr

structure ModuleGraph where
  members : List Member := []
  edges : List Edge := []
  variants : List Variant := []
  deriving Repr

namespace ModuleGraph

def nodes (g : ModuleGraph) : List Node := g.members.map (·.node)

def node? (g : ModuleGraph) (id : NodeKey) : Option Node :=
  (g.members.find? (·.id = id)).map (·.node)

def keyOf (g : ModuleGraph) (id : NodeKey) : NodeKey := ((g.node? id).map Node.key).getD id

def named (g : ModuleGraph) (name : String) : List Member := g.members.filter (·.id.name = name)

/-- Registers a node; refused when its key is taken. -/
def add? (g : ModuleGraph) (n : Node) : Option ModuleGraph :=
  if (g.node? n.key).isSome then none
  else some { g with members := g.members ++ [⟨n.key, n⟩] }

/-- Whether a node has the wanted value on every axis it varies on. -/
def agrees (sel : Selector) (n : Node) : Bool :=
  sel.all fun w => (n.variations.lookup w.1).all (· == w.2)

/-- The first node of a name that agrees with a selector. -/
def find? (g : ModuleGraph) (name : String) (sel : Selector) : Option Member :=
  (g.named name).find? fun m => agrees sel m.node

/-- Adds an edge to the node each name selects; the names that select none are returned. -/
def addDependencies (g : ModuleGraph) (parent : NodeKey) (tag : Tag) (names : List String)
    (sel : Selector) : ModuleGraph × List String :=
  let source := g.keyOf parent
  let found (name : String) : Option Edge :=
    (g.find? name sel).map fun child => ⟨parent, child.id, tag, source⟩
  ({ g with edges := g.edges ++ names.filterMap found },
    names.filter fun name => (found name).isNone)

def dependencies (g : ModuleGraph) (id : NodeKey) : List Edge :=
  let key := g.keyOf id
  g.edges.filter (·.source = key)

def variant? (g : ModuleGraph) (id : NodeKey) (name : String) : Option Variant :=
  let key := g.keyOf id
  g.variants.find? fun v => v.source = key ∧ v.name = name

/-- The variant of a node with a name, made if there is none yet. -/
def createVariant (g : ModuleGraph) (id : NodeKey) (name : String) : ModuleGraph × Variant :=
  match g.variant? id name with
  | some v => (g, v)
  | none =>
    let v : Variant := ⟨id, name, g.keyOf id⟩
    ({ g with variants := g.variants ++ [v] }, v)

def createVariants (g : ModuleGraph) (id : NodeKey) : List String → ModuleGraph × List Variant
  | [] => (g, [])
  | name :: rest =>
    let (g, v) := g.createVariant id name
    let (g, more) := g.createVariants id rest
    (g, v :: more)

def variantsOf (g : ModuleGraph) (id : NodeKey) : List Variant :=
  let key := g.keyOf id
  (g.variants.filter (·.source = key)).mergeSort (·.name ≤ ·.name)

def modify (g : ModuleGraph) (name : String) (f : Node → Node) : ModuleGraph :=
  { g with members := g.members.map fun m =>
      if m.id.name = name then { m with node := f m.node } else m }

theorem find?_name {g : ModuleGraph} {name : String} {sel : Selector} {m : Member}
    (h : g.find? name sel = some m) :
    m ∈ g.members ∧ m.id.name = name ∧ agrees sel m.node = true := by
  have hm := List.mem_of_find?_eq_some h
  simp only [named, List.mem_filter, decide_eq_true_eq] at hm
  have ha := List.find?_some (p := fun m : Member => agrees sel m.node) h
  exact ⟨hm.1, hm.2, ha⟩

theorem nodup_ids_add? {g g' : ModuleGraph} {n : Node} (h : g.add? n = some g')
    (hg : (g.members.map Member.id).Nodup) : (g'.members.map Member.id).Nodup := by
  unfold add? at h
  split at h
  · cases h
  · next hn =>
    cases h
    simp only [node?, Option.isSome_map, Option.not_isSome_iff_eq_none, List.find?_eq_none,
      decide_eq_true_eq] at hn
    simp only [List.map_append, List.map_cons, List.map_nil, List.nodup_append, hg,
      List.nodup_cons, List.not_mem_nil, not_false_eq_true, List.nodup_nil, and_self,
      List.mem_map, forall_exists_index, and_imp, true_and]
    rintro _ m hm rfl b hb rfl
    exact hn m hm (by simpa using hb)

end ModuleGraph

end BundleWright
