import BundleWright.Text.Quoted
/-!
What can be wrong with a YAML document. Most faults lie in its form; the others lie in a scalar that
does not stand for a value of its kind.
-/
namespace BundleWright

def tooManyDigitsMessage (count : Nat) : String :=
  "Exceeds the limit (4300 digits) for integer string conversion: value has " ++ toString count ++
    " digits; use sys.set_int_max_str_digits() to increase the limit"

namespace Yaml

inductive Fault where
  | malformed
  | unknownTag (tag : String)
  /-- A scalar breaks a rule of its kind. -/
  | unfit (message : String)
  | emptyNumber
  | noTruthWord (word : String)
  | noMoment
  /-- The number of a character does not fit a machine word. -/
  | codeOverflow
  deriving DecidableEq, Repr

def Fault.message : Fault → String
  | .malformed => "the document is malformed"
  | .unknownTag tag => "could not determine a constructor for the tag " ++ Text.quoted tag
  | .unfit message => message
  | .emptyNumber => "string index out of range"
  | .noTruthWord word => Text.quoted word
  | .noMoment => "'NoneType' object has no attribute 'groupdict'"
  | .codeOverflow => "Python int too large to convert to C int"

/-- Whether a fault is one of the document; the others lie in how a tag is used. -/
def Fault.isTold : Fault → Bool
  | .malformed | .unknownTag _ | .unfit _ => true
  | _ => false

abbrev Reading := Except Fault

end Yaml

end BundleWright
