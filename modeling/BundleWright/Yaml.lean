import BundleWright.Text.Split
import BundleWright.Yaml.Node.Reader
import BundleWright.Yaml.Value
/-!
Reading YAML documents: from the text to its words, from the words to nodes, from the nodes to a
value.
-/
namespace BundleWright.Yaml

/-- The value a text is the document of; a text without one stands for nothing. -/
def parse (s : String) : Reading Datum := do
  match ← node? (Text.unifyLineEnds s.toList) with
  | some node => node.value
  | none => return .null

end BundleWright.Yaml
