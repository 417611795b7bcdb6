/-!
Build targets: an operating system, an architecture, and whether code for it runs natively.
-/
namespace BundleWright

inductive OsClass where
  | device
  | host
  deriving DecidableEq, Repr

def OsClass.word : OsClass → String
  | .device => "device"
  | .host => "host"

structure Target where
  os : String := "android"
  osClass : OsClass := .device
  arch : String
  /-- The bitness, `lib32` or `lib64`; empty for code of no architecture. -/
  multilib : String := ""
  /-- False for an architecture that the machine translates. -/
  native : Bool := true
  /-- The binary interfaces of the target, the main one first. -/
  abis : List String := []
  deriving DecidableEq, Repr

namespace Target

def variantName (t : Target) : String :=
  let base := t.os ++ "_" ++ t.arch
  if t.native then base else base ++ "_native_bridge"

def is32bit (t : Target) : Bool := t.multilib == "lib32"

def is64bit (t : Target) : Bool := t.multilib == "lib64"

/-- The main binary interface of each target, each once, in the order of the targets. -/
def mainAbis (targets : List Target) : List String :=
  (targets.filterMap (·.abis.head?)).eraseDups

end Target

inductive Arch where
  | arm
  | arm64
  | x86
  | x86_64
  deriving DecidableEq, Repr

namespace Arch

def all : List Arch := [.arm, .arm64, .x86, .x86_64]

def word : Arch → String
  | .arm => "arm"
  | .arm64 => "arm64"
  | .x86 => "x86"
  | .x86_64 => "x86_64"

def ofWord? (s : String) : Option Arch := all.find? (·.word = s)

def multilib : Arch → String
  | .arm | .x86 => "lib32"
  | .arm64 | .x86_64 => "lib64"

def abi : Arch → String
  | .arm => "armeabi-v7a"
  | .arm64 => "arm64-v8a"
  | .x86 => "x86"
  | .x86_64 => "x86_64"

end Arch

inductive TargetOs where
  | android
  | linuxGlibc
  | linuxBionic
  deriving DecidableEq, Repr

namespace TargetOs

def all : List TargetOs := [.android, .linuxGlibc, .linuxBionic]

def word : TargetOs → String
  | .android => "android"
  | .linuxGlibc => "linux_glibc"
  | .linuxBionic => "linux_bionic"

def osClass : TargetOs → OsClass
  | .android => .device
  | _ => .host

def target (os : TargetOs) (native : Bool) (arch : Arch) : Target where
  os := os.word
  osClass := os.osClass
  arch := arch.word
  multilib := arch.multilib
  native := native
  abis := [arch.abi]

/-- The target of what is built once for all architectures. -/
def common (os : TargetOs) : Target where
  os := os.word
  osClass := os.osClass
  arch := "common"

end TargetOs

end BundleWright
