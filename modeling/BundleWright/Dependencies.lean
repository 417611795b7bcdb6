import BundleWright.Problem
import BundleWright.Request
/-!
Adding the edges of a bundle to the graph: one per request, one to its key, and one to its
certificate when that is a module. A name that no node matches is reported; a missing key is fatal.
-/
namespace BundleWright

/-- The module named by a text `:module`. -/
def moduleReference? (s : String) : Option String :=
  match s.toList with
  | ':' :: c :: rest => some (String.ofList (c :: rest))
  | _ => none

namespace ModuleGraph

/-- Adds the edge a request asks for, or reports that nothing matches it. -/
def addRequest (g : ModuleGraph) (bundle : BundleModule) (r : Request) :
    ModuleGraph × List PropertyError :=
  let (g, missing) := g.addDependencies bundle.id r.tag [r.name] r.selector
  (g, missing.map fun name => ⟨bundle.name, .undefinedModule r.tag name r.arch?⟩)

def addRequests (g : ModuleGraph) (bundle : BundleModule) :
    List Request → ModuleGraph × List PropertyError
  | [] => (g, [])
  | r :: rest =>
    let (g, errors) := g.addRequest bundle r
    let (g, more) := g.addRequests bundle rest
    (g, errors ++ more)

def wholeRequest (tag : Tag) (name : String) : Request := ⟨name, tag, [], none⟩

/-- Adds every edge of a bundle. When no key is named the other edges stay, and the reports are
lost with the fatal error. -/
def addBundleDependencies (g : ModuleGraph) (bundle : BundleModule) (settings : Settings) :
    ModuleGraph × Except BundleError (List PropertyError) :=
  let (g, errors) := g.addRequests bundle (bundle.requests settings)
  match Bundle.given bundle.properties.key with
  | none => (g, .error ⟨bundle.name, .keyMissing⟩)
  | some key =>
    let certificate := (bundle.properties.certificate.bind moduleReference?).toList
    let (g, more) := g.addRequests bundle
      (wholeRequest .key key :: certificate.map (wholeRequest .certificate))
    (g, .ok (errors ++ more))

end ModuleGraph

end BundleWright
