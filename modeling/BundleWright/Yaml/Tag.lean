import BundleWright.Yaml.Moment
/-!
The kinds of YAML nodes. A node says its kind by a tag; a scalar without one tells it by its form.
-/
namespace BundleWright.Yaml

inductive Tag where
  | null
  | bool
  | int
  | float
  | binary
  | timestamp
  | str
  | seq
  | map
  | set
  | omap
  | pairs
  /-- The kind of keys whose values are merged into the mapping around them. -/
  | merge
  /-- The kind of keys that stand for the value of a mapping as a whole. -/
  | value
  | other (uri : String)
  deriving DecidableEq, Repr

namespace Tag

def words : List (String × Tag) :=
  [("null", .null), ("bool", .bool), ("int", .int), ("float", .float), ("binary", .binary),
    ("timestamp", .timestamp), ("str", .str), ("seq", .seq), ("map", .map), ("set", .set),
    ("omap", .omap), ("pairs", .pairs), ("merge", .merge), ("value", .value)]

def front : String := "tag:yaml.org,2002:"

def ofUri (uri : String) : Tag :=
  ((words.find? fun w => front ++ w.1 = uri).map (·.2)).getD (.other uri)

def uri : Tag → String
  | .other uri => uri
  | t => front ++ ((words.find? (·.2 = t)).map (·.1)).getD ""

theorem uri_of_mem_words : ∀ w ∈ words, uri w.2 = front ++ w.1 := by decide

/-- No name of a kind is lost when it is read. -/
theorem uri_ofUri (u : String) : uri (ofUri u) = u := by
  unfold ofUri
  cases h : words.find? fun w => front ++ w.1 = u with
  | none => rfl
  | some w =>
    have hu := List.find?_some h
    exact (uri_of_mem_words w (List.mem_of_find?_eq_some h)).trans (of_decide_eq_true hu)

end Tag

/-- What follows digits and underscores, of which the first has to be a digit. -/
def afterDigits? (cs : List Char) : Option (List Char) :=
  if cs.head?.any Char.isDigit then some (cs.dropWhile fun c => c.isDigit || c = '_') else none

def isBoolWord (cs : List Char) : Bool :=
  ["yes", "no", "true", "false", "on", "off"].any fun w =>
    let small := w.toList
    let large := small.map Char.toUpper
    cs = small || cs = large || cs = large.take 1 ++ small.drop 1

def isNullWord (cs : List Char) : Bool :=
  cs.isEmpty || ["~", "null", "Null", "NULL"].contains (String.ofList cs)

def isExponent : List Char → Bool
  | [] => true
  | e :: s :: rest =>
    (e = 'e' || e = 'E') && (s = '+' || s = '-') && !rest.isEmpty && rest.all Char.isDigit
  | _ => false

/-- One group to the base sixty or more, each of one digit or of two below sixty; what follows. -/
def sixtyGroups? (cs : List Char) : Option (List Char) :=
  match cs with
  | ':' :: a :: b :: rest =>
    if a.isDigit && b.isDigit then
      if a < '6' then (sixtyGroups? rest).or (some rest) else none
    else if a.isDigit then (sixtyGroups? (b :: rest)).or (some (b :: rest))
    else none
  | [':', a] => if a.isDigit then some [] else none
  | _ => none

def unsigned (cs : List Char) : List Char :=
  match cs with
  | c :: rest => if c = '+' || c = '-' then rest else cs
  | [] => []

def isPlaces (withExponent : Bool) : List Char → Bool
  | '.' :: rest =>
    let rest := rest.dropWhile fun c => c.isDigit || c = '_'
    if withExponent then isExponent rest else rest.isEmpty
  | _ => false

def isFloat (cs : List Char) : Bool :=
  (afterDigits? (unsigned cs)).any (fun rest =>
    isPlaces true rest || (sixtyGroups? rest).any (isPlaces false)) ||
  (match cs with
    | '.' :: rest => (afterDigits? rest).any isExponent
    | _ => false) ||
  [".inf", ".Inf", ".INF"].contains (String.ofList (unsigned cs)) ||
  [".nan", ".NaN", ".NAN"].contains (String.ofList cs)

def isRun (p : Char → Bool) (cs : List Char) : Bool :=
  !cs.isEmpty && cs.all fun c => p c || c = '_'

def isInt (cs : List Char) : Bool :=
  match unsigned cs with
  | ['0'] => true
  | '0' :: 'b' :: rest => isRun (fun c => c = '0' || c = '1') rest
  | '0' :: 'x' :: rest => isRun (fun c => (Json.hexValue? c).isSome) rest
  | '0' :: rest => isRun (fun c => '0' ≤ c && c ≤ '7') rest
  | cs => (afterDigits? cs).any fun rest =>
    rest.isEmpty || (sixtyGroups? rest).any List.isEmpty

def Tag.ofForm (cs : List Char) : Tag :=
  let form := formOf cs
  if form.isEmpty && !cs.isEmpty then .str
  else if isBoolWord form then .bool
  else if isFloat form then .float
  else if isInt form then .int
  else if form = ['<', '<'] then .merge
  else if isNullWord form then .null
  else if isMoment form then .timestamp
  else if form = ['='] then .value
  else if [['!'], ['&'], ['*']].contains form then .other (Tag.front ++ "yaml")
  else .str

end BundleWright.Yaml
