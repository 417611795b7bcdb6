import BundleWright.PackagedFile
/-!
What can be wrong with a bundle: problems of one property, which are reported and leave the rest
usable, and faults that end the work on the bundle.
-/
namespace BundleWright

def Tag.property : Tag → String
  | .sharedLib => "native_shared_libs"
  | .executable => "binaries"
  | .javaLib => "java_libs"
  | .prebuilt => "prebuilts"
  | .key => "key"
  | .certificate => "certificate"
  | .moduleDep => "deps"

inductive Problem where
  /-- No node matches the request; `arch` is the variant that was asked for. -/
  | undefinedModule (tag : Tag) (name : String) (arch : Option String)
  | wrongKind (tag : Tag) (name : String)
  | notCompiled (name : String)
  | misplaced (tag : Tag) (name : String) (fault : PlacementFault)
  deriving DecidableEq, Repr

namespace Problem

def tag : Problem → Tag
  | .undefinedModule t _ _ => t
  | .wrongKind t _ => t
  | .notCompiled _ => .javaLib
  | .misplaced t _ _ => t

def module : Problem → String
  | .undefinedModule _ n _ => n
  | .wrongKind _ n => n
  | .notCompiled n => n
  | .misplaced _ n _ => n

def wrongKindMessage (tag : Tag) (name : String) : String :=
  match tag with
  | .sharedLib => Text.quoted name ++ " is not a cc_library or cc_library_shared module"
  | .executable => Text.quoted name ++ " is neither cc_binary nor sh_binary"
  | .javaLib => Text.quoted name ++ " is not a java_library module"
  | .prebuilt => Text.quoted name ++ " is not a prebuilt_etc module"
  | .key => Text.quoted name ++ " is not an apex_key module"
  | .certificate =>
    "certificate dependency " ++ Text.quoted name ++ " must be an android_app_certificate module"
  | .moduleDep => Text.quoted name ++ " is not a module"

def message : Problem → String
  | .undefinedModule _ name none => Text.quoted name ++ " is not a defined module"
  | .undefinedModule _ name (some arch) =>
    Text.quoted name ++ " is not a defined module for " ++ arch
  | .wrongKind tag name => wrongKindMessage tag name
  | .notCompiled name => Text.quoted name ++ " is not configured to be compiled into dex"
  | .misplaced _ name fault => Text.quoted name ++ ": " ++ fault.message

end Problem

structure PropertyError where
  bundle : String
  problem : Problem
  deriving DecidableEq, Repr

namespace PropertyError

def property (e : PropertyError) : String := e.problem.tag.property

def message (e : PropertyError) : String := e.problem.message

def text (e : PropertyError) : String := e.bundle ++ ": " ++ e.property ++ ": " ++ e.message

end PropertyError

inductive BundleFault where
  | keyMissing
  | keyUnresolved (key : String)
  | fileContextsNotFound (path : String)
  | payloadTypeInvalid (value : String)
  deriving DecidableEq, Repr

structure BundleError where
  bundle : String
  fault : BundleFault
  deriving DecidableEq, Repr

namespace BundleError

def code (e : BundleError) : String :=
  match e.fault with
  | .keyMissing | .keyUnresolved _ => "missing_key"
  | .fileContextsNotFound _ => "file_contexts_not_found"
  | .payloadTypeInvalid _ => "invalid_payload_type"

def message (e : BundleError) : String :=
  e.bundle ++ ": " ++ match e.fault with
  | .keyMissing => "key is missing"
  | .keyUnresolved key => "private_key for " ++ Text.quoted key ++ " could not be found"
  | .fileContextsNotFound path => "Cannot find file_contexts file: " ++ Text.quoted path
  | .payloadTypeInvalid value =>
    "payload_type " ++ Text.quoted value ++ " is not one of \"image\", \"zip\", or \"both\""

end BundleError

end BundleWright
