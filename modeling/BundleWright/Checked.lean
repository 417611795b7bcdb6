import BundleWright.Datum.Literal
/-!
Values read with every flaw reported. Two readings side by side keep the flaws of both, so a wrong
document is described completely by one answer.
-/
namespace BundleWright

inductive Fault where
  | missing
  | extraForbidden
  | invalidKey
  | listType
  | stringType
  /-- The text holds half a surrogate pair, or the bytes are no text. -/
  | stringUnicode
  | boolType
  | boolParsing
  | intType
  | intParsing
  | intParsingSize
  | intFromFloat
  | finiteNumber
  | atLeast
  | atMost
  | literal
  | pathType
  | modelType
  | modelAttributesType
  | tooShort
  | tooLong
  | tagNotFound
  | tagInvalid (tag : String)
  | rejected (message : String)
  deriving DecidableEq, Repr

def Fault.code : Fault → String
  | .missing => "missing"
  | .extraForbidden => "extra_forbidden"
  | .invalidKey => "invalid_key"
  | .listType => "list_type"
  | .stringType => "string_type"
  | .stringUnicode => "string_unicode"
  | .boolType => "bool_type"
  | .boolParsing => "bool_parsing"
  | .intType => "int_type"
  | .intParsing => "int_parsing"
  | .intParsingSize => "int_parsing_size"
  | .intFromFloat => "int_from_float"
  | .finiteNumber => "finite_number"
  | .atLeast => "greater_than_equal"
  | .atMost => "less_than_equal"
  | .literal => "literal_error"
  | .pathType => "path_type"
  | .modelType => "model_type"
  | .modelAttributesType => "model_attributes_type"
  | .tooShort => "string_too_short"
  | .tooLong => "string_too_long"
  | .tagNotFound => "union_tag_not_found"
  | .tagInvalid _ => "union_tag_invalid"
  | .rejected _ => "value_error"

def Fault.message? : Fault → Option String
  | .rejected m => some m
  | _ => none

def Fault.sentence : Fault → String
  | .missing => "Field required"
  | .extraForbidden => "Extra inputs are not permitted"
  | .invalidKey => "Keys should be strings"
  | .listType => "Input should be a valid list"
  | .stringType => "Input should be a valid string"
  | .stringUnicode => "Input should be a valid string, unable to read it as one"
  | .boolType => "Input should be a valid boolean"
  | .boolParsing => "Input should be a valid boolean, unable to interpret input"
  | .intType => "Input should be a valid integer"
  | .intParsing => "Input should be a valid integer, unable to read the text as one"
  | .intParsingSize => "Input should be a valid integer, the value is too large"
  | .intFromFloat => "Input should be a valid integer, got a number with a fractional part"
  | .finiteNumber => "Input should be a finite number"
  | .atLeast => "Input should be greater"
  | .atMost => "Input should be less"
  | .literal => "Input should be one of the known words"
  | .pathType => "Input is not a valid path"
  | .modelType => "Input should be a valid dictionary"
  | .modelAttributesType => "Input should be a valid dictionary or object to extract fields from"
  | .tooShort => "String should have at least 1 character"
  | .tooLong => "String should have at most 255 characters"
  | .tagNotFound => "Unable to extract tag using discriminator 'type'"
  | .tagInvalid tag =>
    "Input tag '" ++ tag ++ "' found using 'type' does not match any of the expected tags"
  | .rejected message => "Value error, " ++ message

/-- A fault, where it was found, and the value it was found in. The place is told by field names and
list positions from the outside in. -/
structure Flaw where
  path : List String
  fault : Fault
  input : Datum

namespace Flaw

def location (f : Flaw) : String := String.intercalate "." f.path

def le (a b : Flaw) : Bool :=
  let m (f : Flaw) : String := f.fault.message?.getD ""
  if a.location ≠ b.location then a.location ≤ b.location
  else if a.fault.code ≠ b.fault.code then a.fault.code ≤ b.fault.code
  else m a ≤ m b

def under (key : String) (f : Flaw) : Flaw := { f with path := key :: f.path }

/-- The first characters of a text that fit into a number of bytes. -/
def fitting (bytes : Nat) : List Char → List Char
  | [] => []
  | c :: cs => if c.utf8Size ≤ bytes then c :: fitting (bytes - c.utf8Size) cs else []

/-- A literal of at most fifty bytes, or the ends of a longer one. -/
def clipped (literal : String) : String :=
  if literal.utf8ByteSize ≤ 50 then literal
  else
    String.ofList (fitting 25 literal.toList) ++ "..." ++
      String.ofList (fitting 24 literal.toList.reverse).reverse

def text (f : Flaw) : String :=
  let place := if f.path.isEmpty then "" else f.location ++ "\n"
  place ++ "  " ++ f.fault.sentence ++ " [type=" ++ f.fault.code ++ ", input_value=" ++
    clipped f.input.literal ++ ", input_type=" ++ f.input.kindWord ++ "]"

def report (flaws : List Flaw) : String :=
  let count := toString flaws.length ++
    if flaws.length = 1 then " validation error" else " validation errors"
  String.intercalate "\n" (count :: flaws.map text)

def sorted (flaws : List Flaw) : List Flaw := flaws.mergeSort le

end Flaw

/-- A value, or all the flaws that stand in its way. -/
inductive Checked (α : Type) where
  | sound (value : α)
  | flawed (flaws : List Flaw)

namespace Checked

variable {α β : Type}

protected def map (f : α → β) : Checked α → Checked β
  | .sound a => .sound (f a)
  | .flawed e => .flawed e

protected def seq (f : Checked (α → β)) (x : Checked α) : Checked β :=
  match f, x with
  | .sound f, .sound a => .sound (f a)
  | .sound _, .flawed e => .flawed e
  | .flawed e, .sound _ => .flawed e
  | .flawed e, .flawed e' => .flawed (e ++ e')

instance : Applicative Checked where
  pure := .sound
  map f x := x.map f
  seq f x := f.seq (x ())

def andThen (x : Checked α) (f : α → Checked β) : Checked β :=
  match x with
  | .sound a => f a
  | .flawed e => .flawed e

def fail (fault : Fault) (input : Datum) : Checked α := .flawed [⟨[], fault, input⟩]

def under (key : String) : Checked α → Checked α
  | .sound a => .sound a
  | .flawed e => .flawed (e.map (Flaw.under key))

def all : List (Checked α) → Checked (List α)
  | [] => .sound []
  | x :: rest => List.cons <$> x <*> all rest

def toExcept : Checked α → Except (List Flaw) α
  | .sound a => .ok a
  | .flawed e => .error e

@[simp] theorem map_sound (f : α → β) (a : α) : f <$> Checked.sound a = .sound (f a) := rfl

@[simp] theorem seq_sound (f : α → β) (a : α) :
    (Checked.sound f <*> Checked.sound a) = .sound (f a) := rfl

theorem seq_eq_sound_iff {f : Checked (α → β)} {x : Checked α} {b : β} :
    (f <*> x) = .sound b ↔ ∃ g a, f = .sound g ∧ x = .sound a ∧ g a = b := by
  cases f <;> cases x <;> simp [Seq.seq, Checked.seq]

theorem map_eq_sound_iff {f : α → β} {x : Checked α} {b : β} :
    f <$> x = .sound b ↔ ∃ a, x = .sound a ∧ f a = b := by
  cases x <;> simp [Functor.map, Checked.map]

end Checked

end BundleWright
