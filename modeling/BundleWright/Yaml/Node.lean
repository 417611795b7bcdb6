import BundleWright.Yaml.Tag
/-!
The nodes of a YAML document: scalars, sequences and mappings, each with its kind. An alias is the
node that its anchor names.
-/
namespace BundleWright.Yaml

inductive Node where
  | scalar (tag : Tag) (codes : List Nat)
  | sequence (tag : Tag) (items : List Node)
  | mapping (tag : Tag) (entries : List (Node × Node))

namespace Node

def tag : Node → Tag
  | scalar tag _ | sequence tag _ | mapping tag _ => tag

def empty : Node := .scalar .null []

def untagged (plain : Bool) (codes : List Nat) : Node :=
  .scalar (if plain then .ofForm (codes.map Char.ofNat) else .str) codes

end Node

end BundleWright.Yaml
