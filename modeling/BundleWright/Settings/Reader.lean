import BundleWright.Checked.Value
import BundleWright.Declaration.Reader
import BundleWright.Json.Reader
import BundleWright.Settings
import BundleWright.Settings.VariableFile
import BundleWright.Text.Lower
/-!
Reading settings: from given values, then from the environment, then from the text of a file of
variables. A source gives a value under the name of the setting after `APEX_BUNDLER_`, letters of
either case; lists are written as JSON.
-/
namespace BundleWright.Settings

inductive Source where
  | environment
  | dotenv
  deriving DecidableEq, Repr

def Source.word : Source → String
  | .environment => "EnvSettingsSource"
  | .dotenv => "DotEnvSettingsSource"

inductive Failure where
  | unreadable (setting : String) (source : Source)
  | flawed (flaws : List Flaw)

def Failure.unreadableMessage (setting : String) (source : Source) : String :=
  s!"error parsing value for field \"{setting}\" from source \"{source.word}\""

def readPath (d : Datum) : Checked Path :=
  match d with
  | .str s => .sound (.ofString s)
  | _ => Checked.fail .pathType d

def knownArches : String :=
  "[" ++ String.intercalate ", " (Arch.all.map fun a => "'" ++ a.word ++ "'") ++ "]"

def archesOf : List String → Except Fault (List Arch)
  | [] => .ok []
  | w :: rest =>
    match Arch.ofWord? w with
    | none => .error (.rejected s!"unknown architecture '{w}', expected one of {knownArches}")
    | some a => (archesOf rest).map (a :: ·)

def readArches (d : Datum) : Checked (List Arch) :=
  (Checked.strings d).andThen fun names =>
    match archesOf names with
    | .ok archs => .sound archs
    | .error fault => Checked.fail fault d

/-- A whole number from 1 up to a limit, if there is one. -/
def readCount (limit : Option Int) (d : Datum) : Checked Int :=
  (Checked.int d).andThen fun n =>
    if n < 1 then Checked.fail .atLeast d
    else if limit.any (· < n) then Checked.fail .atMost d
    else .sound n

def mostConcurrent : Int := 64

def read (base : Settings) (fs : Fields) : Checked Settings :=
  let text (key : String) (default : String) : Checked String :=
    Checked.field fs key default Checked.string
  let flag (key : String) (default : Bool) : Checked Bool :=
    Checked.field fs key default Checked.bool
  Settings.mk <$> Checked.field fs "source_root" base.sourceRoot readPath
    <*> Checked.field fs "out_dir" base.outDir readPath
    <*> Checked.field fs "install_root" base.installRoot readPath
    <*> text "sepolicy_dir" base.sepolicyDir
    <*> text "default_cert_dir" base.defaultCertDir
    <*> text "default_certificate" base.defaultCertificate
    <*> Checked.field fs "targets" base.targets readArches
    <*> Checked.field fs "native_bridge_targets" base.nativeBridgeTargets readArches
    <*> Checked.field fs "target_os" base.targetOs
      (Declaration.readWord TargetOs.word TargetOs.all)
    <*> flag "debuggable" base.debuggable
    <*> flag "flatten_apex" base.flattenApex
    <*> flag "unbundled_build" base.unbundledBuild
    <*> text "vndk_version" base.vndkVersion
    <*> Checked.field fs "manifest_package_name_overrides" base.packageNameOverrides
      Checked.strings
    <*> text "apexer" base.apexer
    <*> text "aapt2" base.aapt2
    <*> text "zip2zip" base.zip2zip
    <*> text "java" base.java
    <*> text "signapk_jar" base.signapkJar
    <*> text "apexer_tool_path" base.apexerToolPath
    <*> Checked.field fs "log_level" base.logLevel
      (Declaration.readWord LogLevel.word LogLevel.all)
    <*> Checked.field fs "max_concurrent_bundles" base.maxConcurrentBundles
      (readCount (some mostConcurrent))
    <*> Checked.field fs "action_timeout" base.actionTimeout (readCount none)

def names : List (String × Bool) :=
  [("source_root", false), ("out_dir", false), ("install_root", false), ("sepolicy_dir", false),
    ("default_cert_dir", false), ("default_certificate", false), ("targets", true),
    ("native_bridge_targets", true), ("target_os", false), ("debuggable", false),
    ("flatten_apex", false), ("unbundled_build", false), ("vndk_version", false),
    ("manifest_package_name_overrides", true), ("apexer", false), ("aapt2", false),
    ("zip2zip", false), ("java", false), ("signapk_jar", false), ("apexer_tool_path", false),
    ("log_level", false), ("max_concurrent_bundles", false), ("action_timeout", false)]

def variableStem : String := "apex_bundler_"

/-- The variables of a source that may be named without a text. -/
def bindings (vars : Variables) : List Binding := vars.map fun v => (v.1, some v.2)

def textOf? (vars : List Binding) (setting : String) : Option String :=
  (vars.reverse.find? fun v => Text.lower v.1 = variableStem ++ setting).bind (·.2)

/-- The values that a source gives; a list that is null counts as not given. -/
def sourceFields (source : Source) (vars : List Binding) :
    List (String × Bool) → Except Failure Fields
  | [] => .ok []
  | (setting, isList) :: rest =>
    match textOf? vars setting with
    | none => sourceFields source vars rest
    | some s =>
      if !isList then do
        let more ← sourceFields source vars rest
        return (setting, .str s) :: more
      else match Json.parse s with
        | .error _ => .error (.unreadable setting source)
        | .ok .null => sourceFields source vars rest
        | .ok d => do
          let more ← sourceFields source vars rest
          return (setting, d) :: more

def ranked (sources : List Fields) : Fields :=
  names.filterMap fun n => (sources.findSome? fun fs => fs.get? n.1).map fun d => (n.1, d)

def gather (base : Settings) (values : Fields) (environment : Variables) (dotenv : String) :
    Except Failure Settings := do
  let fromEnvironment ← sourceFields .environment (bindings environment) names
  let fromFile ← sourceFields .dotenv (VariableFile.parse environment dotenv) names
  match read base (ranked [values, fromEnvironment, fromFile]) with
  | .sound s => return s
  | .flawed e => throw (.flawed e)

end BundleWright.Settings
