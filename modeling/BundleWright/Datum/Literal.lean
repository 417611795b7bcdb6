import BundleWright.Datum
import BundleWright.Text.Quoted
/-!
Literals of data values, the form in which messages show them. Texts stand in quotes, lists in
brackets, objects in braces.
-/
namespace BundleWright

def truthText (b : Bool) : String := if b then "True" else "False"

def Scalar.literal : Scalar → String
  | .null => "None"
  | .bool b => truthText b
  | .int n => toString n
  | .float x => x.text "inf" "nan"
  | .str s => Text.quoted s
  | .halves codes => Text.quotedCodes codes
  | .bytes bs => Text.quotedBytes bs
  | .other _ literal => literal

namespace Datum

def groupLiteral (grouping : Grouping) (items : List String) : String :=
  let inside := String.intercalate ", " items
  match grouping, items with
  | .list, _ => "[" ++ inside ++ "]"
  | .tuple, [_] => "(" ++ inside ++ ",)"
  | .tuple, _ => "(" ++ inside ++ ")"
  | .set, [] => "set()"
  | .set, _ => "\x7b" ++ inside ++ "\x7d"

mutual

def literal : Datum → String
  | .scalar s => s.literal
  | .group grouping items => groupLiteral grouping (literals items)
  | .obj fields => "\x7b" ++ String.intercalate ", " (fieldLiterals fields) ++ "\x7d"

def literals : List Datum → List String
  | [] => []
  | d :: rest => literal d :: literals rest

def fieldLiterals : List (Scalar × Datum) → List String
  | [] => []
  | (k, v) :: rest => (k.literal ++ ": " ++ literal v) :: fieldLiterals rest

end

/-- A value inside a sentence: a text as it is, anything else by its literal. -/
def shown : Datum → String
  | .str s => s
  | d => d.literal

end Datum

end BundleWright
