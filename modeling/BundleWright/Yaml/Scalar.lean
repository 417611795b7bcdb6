import BundleWright.Yaml.Binary
import BundleWright.Yaml.Number
import BundleWright.Yaml.Tag
/-!
What scalars stand for, by their kinds.
-/
namespace BundleWright.Yaml

def truth (word : String) : Reading Bool :=
  let word := Text.lower word
  if ["yes", "true", "on"].contains word then .ok true
  else if ["no", "false", "off"].contains word then .ok false
  else .error (.noTruthWord word)

def scalarValue (tag : Tag) (codes : List Nat) : Reading Scalar :=
  let cs := codes.map Char.ofNat
  match tag with
  | .null => .ok .null
  | .bool => (truth (String.ofList cs)).map .bool
  | .int => (integer cs).map .int
  | .float => (fraction cs).map .float
  | .timestamp => moment cs
  | .binary =>
    match bytes? cs with
    | some bs => .ok (.bytes bs)
    | none => .error .malformed
  | .str => .ok (.ofCodes codes)
  | tag => .error (.unknownTag tag.uri)

end BundleWright.Yaml
