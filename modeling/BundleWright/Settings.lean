import BundleWright.Path
import BundleWright.Target
/-!
The settings of a build.
-/
namespace BundleWright

inductive LogLevel where
  | debug
  | info
  | warning
  | error
  | critical
  deriving DecidableEq, Repr

def LogLevel.all : List LogLevel := [.debug, .info, .warning, .error, .critical]

def LogLevel.word : LogLevel → String
  | .debug => "DEBUG"
  | .info => "INFO"
  | .warning => "WARNING"
  | .error => "ERROR"
  | .critical => "CRITICAL"

structure Settings where
  sourceRoot : Path
  outDir : Path
  installRoot : Path
  sepolicyDir : String := "system/sepolicy/apex"
  defaultCertDir : String := "build/make/target/product/security"
  defaultCertificate : String := "testkey"
  /-- The architectures to build for, the main one first. -/
  targets : List Arch := [.arm64, .arm]
  /-- Translated architectures, after the native ones. -/
  nativeBridgeTargets : List Arch := []
  targetOs : TargetOs := .android
  debuggable : Bool := false
  flattenApex : Bool := false
  unbundledBuild : Bool := false
  /-- Not empty when vendor variants exist. -/
  vndkVersion : String := ""
  packageNameOverrides : List String := []
  apexer : String := "apexer"
  aapt2 : String := "aapt2"
  zip2zip : String := "zip2zip"
  java : String := "java"
  signapkJar : String := "signapk.jar"
  apexerToolPath : String := ""
  logLevel : LogLevel := .info
  /-- How many bundles are worked on at a time. -/
  maxConcurrentBundles : Int := 4
  /-- Seconds a tool may run. -/
  actionTimeout : Int := 1800
  deriving DecidableEq, Repr

namespace Settings

def within (dir : Path) : Settings where
  sourceRoot := dir
  outDir := dir / "out" / "soong" / ".intermediates"
  installRoot := dir / "out" / "target" / "product" / "generic"

def sepolicyPath (s : Settings) : Path := s.sourceRoot / s.sepolicyDir

def certDir (s : Settings) : Path := s.sourceRoot / s.defaultCertDir

def flattened (s : Settings) : Bool := s.flattenApex && !s.unbundledBuild

def targetList (s : Settings) : List Target :=
  s.targets.map (s.targetOs.target true) ++ s.nativeBridgeTargets.map (s.targetOs.target false)

def commonTarget (s : Settings) : Target := s.targetOs.common

end Settings

end BundleWright
