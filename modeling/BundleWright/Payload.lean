/-!
The forms in which a bundle is delivered, and the classes of the files in it.
-/
namespace BundleWright

inductive Payload where
  | image
  | zip
  deriving DecidableEq, Repr

def Payload.all : List Payload := [.image, .zip]

def Payload.word : Payload → String
  | .image => "image"
  | .zip => "zip"

def Payload.ending : Payload → String
  | .image => ".apex"
  | .zip => ".zipapex"

inductive PayloadSelection where
  | image
  | zip
  | both
  deriving DecidableEq, Repr

namespace PayloadSelection

def all : List PayloadSelection := [.image, .zip, .both]

def word : PayloadSelection → String
  | .image => "image"
  | .zip => "zip"
  | .both => "both"

def hasImage : PayloadSelection → Bool
  | .image | .both => true
  | .zip => false

def hasZip : PayloadSelection → Bool
  | .zip | .both => true
  | .image => false

/-- The selection a word stands for; the image when nothing is said. -/
def ofWord? : Option String → Option PayloadSelection
  | none => some .image
  | some s => all.find? (·.word = s)

end PayloadSelection

inductive FileClass where
  | etc
  | nativeSharedLib
  | nativeExecutable
  | shBinary
  | javaSharedLib
  deriving DecidableEq, Repr

namespace FileClass

def all : List FileClass := [.etc, .nativeSharedLib, .nativeExecutable, .shBinary, .javaSharedLib]

def word : FileClass → String
  | .etc => "etc"
  | .nativeSharedLib => "native-shared-lib"
  | .nativeExecutable => "native-executable"
  | .shBinary => "sh-binary"
  | .javaSharedLib => "java-shared-lib"

def makeClass : FileClass → String
  | .etc => "ETC"
  | .nativeSharedLib => "SHARED_LIBRARIES"
  | .nativeExecutable => "EXECUTABLES"
  | .shBinary => "EXECUTABLES"
  | .javaSharedLib => "JAVA_LIBRARIES"

end FileClass

end BundleWright
