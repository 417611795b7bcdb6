import BundleWright.Declaration.Reader
import BundleWright.Json.Reader
import BundleWright.Yaml
/-!
Declaration files: JSON where the name says so, YAML everywhere else.
-/
namespace BundleWright.Declaration

inductive FileFault where
  | json (fault : Json.ReadFault)
  | yaml (fault : Yaml.Fault)
  | noObject (kind : String)
  | noMapping (kind : String)
  | flawed (flaws : List Flaw)

def FileFault.message : FileFault → String
  | .json .malformed => "the document is malformed"
  | .json (.tooManyDigits count) => tooManyDigitsMessage count
  | .yaml fault => fault.message
  | .noObject kind => "Expected a JSON object, got " ++ kind
  | .noMapping kind => "Expected a YAML mapping, got " ++ kind
  | .flawed flaws => Flaw.report flaws

/-- Whether the fault is one of the document, so that it can be told in a sentence about the file. -/
def FileFault.isTold : FileFault → Bool
  | .yaml fault => fault.isTold
  | _ => true

def jsonFields (text : String) : Except FileFault Fields :=
  match Json.parse text with
  | .error fault => .error (.json fault)
  | .ok (.obj fs) => .ok fs
  | .ok d => .error (.noObject d.kindWord)

/-- The fields of a YAML document; an empty one has none. -/
def yamlFields (text : String) : Except FileFault Fields :=
  match Yaml.parse text with
  | .error fault => .error (.yaml fault)
  | .ok .null => .ok []
  | .ok (.obj fs) => .ok fs
  | .ok d => .error (.noMapping d.kindWord)

def isJsonPath (p : Path) : Bool := Text.lower p.extension == ".json"

def ofText (path : Path) (text : String) : Except FileFault (List Declaration) := do
  let fields ← if isJsonPath path then jsonFields text else yamlFields text
  match readDocument (.obj fields) with
  | .sound ds => return ds
  | .flawed e => throw (.flawed e)

end BundleWright.Declaration
