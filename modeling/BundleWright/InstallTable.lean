import BundleWright.Graph.Walk
/-!
Variants per bundle. A walk down from each bundle records its direct dependencies and collects the
nodes that must be built for it; then one variant is made for every such node and bundle.
-/
namespace BundleWright

/-- Which bundles install which modules: pairs of names, each once. -/
structure InstallTable where
  entries : List (String × String) := []
  deriving Repr

namespace InstallTable

def contains (t : InstallTable) (bundle dependency : String) : Bool :=
  t.entries.contains (bundle, dependency)

def insert (t : InstallTable) (bundle dependency : String) : InstallTable :=
  if t.contains bundle dependency then t else ⟨t.entries ++ [(bundle, dependency)]⟩

def size (t : InstallTable) : Nat := t.entries.length

def pairLe (a b : String × String) : Bool := if a.1 = b.1 then a.2 ≤ b.2 else a.1 ≤ b.1

def sortedEntries (t : InstallTable) : List (String × String) := t.entries.mergeSort pairLe

def dependenciesOf (t : InstallTable) (bundle : String) : List String :=
  ((t.entries.filter (·.1 = bundle)).map (·.2)).mergeSort (· ≤ ·)

def bundlesOf (t : InstallTable) (dependency : String) : List String :=
  ((t.entries.filter (·.2 = dependency)).map (·.1)).mergeSort (· ≤ ·)

end InstallTable

structure Obligation where
  node : NodeKey
  bundle : String
  deriving DecidableEq, Repr

structure Annotation where
  obligations : List Obligation := []
  table : InstallTable := {}
  deriving Repr

namespace Annotation

def oblige (a : Annotation) (o : Obligation) : Annotation :=
  if a.obligations.contains o then a else { a with obligations := a.obligations ++ [o] }

/-- What is noted on one edge: a direct dependency of a bundle that is installed and no test goes
into the table, and a child that can be built per bundle is an obligation and is entered. -/
def visit (g : ModuleGraph) (bundle : BundleModule) : ModuleGraph.Visitor Annotation :=
  fun a e =>
    match g.node? e.child with
    | none => (false, a)
    | some child =>
      let b := bundle.node.bundle
      let a := if b.isInstallable && !b.isTest && e.parent = bundle.id then
          { a with table := a.table.insert bundle.name child.name } else a
      if child.hasBundleVariants then (true, a.oblige ⟨e.child, bundle.name⟩) else (false, a)

def ofBundle (g : ModuleGraph) (bundle : BundleModule) (a : Annotation) : Annotation :=
  g.walk bundle.id (visit g bundle) a

def ofBundles (g : ModuleGraph) (bundles : List BundleModule) (a : Annotation) : Annotation :=
  bundles.foldl (fun a b => ofBundle g b a) a

end Annotation

namespace ModuleGraph

def createAll (g : ModuleGraph) : List (NodeKey × List String) → ModuleGraph × List Variant
  | [] => (g, [])
  | (k, names) :: rest =>
    let (g, vs) := g.createVariants k names
    let (g, more) := g.createAll rest
    (g, vs ++ more)

/-- Obligations by the present keys of their nodes, then by bundle. -/
def sortedObligations (g : ModuleGraph) (l : List Obligation) : List Obligation :=
  l.mergeSort fun a b =>
    let (a', b') := (g.keyOf a.node, g.keyOf b.node)
    if a' = b' then a.bundle ≤ b.bundle else a'.le b'

/-- The nodes of obligations in the order of their keys, each with the bundles it is built for. -/
def obligedNames (g : ModuleGraph) (obligations : List Obligation) :
    List (NodeKey × List String) :=
  let keyed := obligations.map fun o => (g.keyOf o.node, o)
  ((keyed.map (·.1)).eraseDups.mergeSort NodeKey.le).filterMap fun k =>
    let same := (keyed.filter (·.1 = k)).map (·.2)
    same.getLast?.map fun o => (o.node, (same.map (·.bundle)).eraseDups.mergeSort (· ≤ ·))

def createBundleVariants (g : ModuleGraph) (obligations : List Obligation)
    (bundles : List BundleModule) : ModuleGraph × List Variant :=
  g.createAll (g.obligedNames obligations ++ bundles.map fun b => (b.id, [b.name]))

/-- Walks down from every bundle and makes the variants. -/
def propagate (g : ModuleGraph) (bundles : List BundleModule) (table : InstallTable) :
    ModuleGraph × InstallTable × List Variant :=
  let a := Annotation.ofBundles g bundles { table }
  let (g, variants) := g.createBundleVariants a.obligations bundles
  (g, a.table, variants)

end ModuleGraph

end BundleWright
