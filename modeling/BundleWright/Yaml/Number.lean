import BundleWright.Decimal
import BundleWright.Json.Reader
import BundleWright.Text.Blank
import BundleWright.Text.Digit
import BundleWright.Text.Lower
import BundleWright.Yaml.Fault
/-!
Numbers in YAML scalars: integers to the bases two, eight, ten, sixteen and sixty, and fractions to
the bases ten and sixty. Underscores count for nothing.
-/
namespace BundleWright.Yaml

def signed (cs : List Char) : Bool × List Char :=
  match cs with
  | '-' :: rest => (true, rest)
  | '+' :: rest => (false, rest)
  | _ => (false, cs)

def digitOf? (base : Nat) (c : Char) : Option Nat :=
  match (Text.digitValue? c).or (Json.hexValue? c) with
  | some d => if d < base then some d else none
  | none => none

def dropBaseMark (base : Nat) (cs : List Char) : List Char :=
  let marks : List Char :=
    if base = 2 then ['b', 'B'] else if base = 8 then ['o', 'O']
    else if base = 16 then ['x', 'X'] else []
  match cs with
  | '0' :: m :: rest => if marks.contains m then rest else cs
  | _ => cs

/-- The integer that a text is; blanks around it, a sign and the mark of its base may be there. -/
def integerText (base : Nat) (cs : List Char) : Reading Int := do
  let (negative, rest) := signed (Text.trimBoth Text.isSpacing cs)
  let rest := dropBaseMark base rest
  let digits := rest.takeWhile fun c => (digitOf? base c).isSome
  if base = 10 && Json.mostDigits < digits.length then
    throw (.unfit (tooManyDigitsMessage digits.length))
  if digits.isEmpty || digits.length < rest.length then
    let literal := (Text.quoted (String.ofList cs)).toList.take 200
    throw (.unfit ("invalid literal for int() with base " ++ toString base ++ ": " ++
      String.ofList literal))
  let n := (digits.filterMap (digitOf? base)).foldl (base * · + ·) 0
  return if negative then -n else n

def colonParts : List Char → List (List Char)
  | [] => [[]]
  | c :: cs =>
    match c, colonParts cs with
    | ':', parts => [] :: parts
    | c, part :: parts => (c :: part) :: parts
    | c, [] => [[c]]

def withoutUnderscores (cs : List Char) : List Char := cs.filter (· ≠ '_')

def integer (cs : List Char) : Reading Int := do
  let cs := withoutUnderscores cs
  if cs.isEmpty then throw .emptyNumber
  let (negative, cs) := signed cs
  let n ← match cs with
    | [] => throw .emptyNumber
    | ['0'] => pure 0
    | '0' :: 'b' :: rest => integerText 2 rest
    | '0' :: 'x' :: rest => integerText 16 rest
    | '0' :: _ => integerText 8 cs
    | _ =>
      if cs.contains ':' then do
        let parts ← (colonParts cs).mapM (integerText 10)
        pure (parts.foldl (60 * · + ·) 0)
      else integerText 10 cs
  return if negative then -n else n

def specialNumber? (cs : List Char) : Option Binary64 :=
  let word := String.ofList (cs.map Char.toLower)
  if word = "inf" || word = "infinity" then some (.infinite false)
  else if word = "nan" then some .notANumber
  else none

/-- An exponent, which ends a number; none is zero. -/
def exponentText? : List Char → Option Int
  | [] => some 0
  | e :: cs =>
    let (negative, cs) := signed cs
    let digits := cs.filterMap Text.digitValue?
    if (e = 'e' || e = 'E') && !cs.isEmpty && digits.length = cs.length then
      let n : Nat := digits.foldl (10 * · + ·) 0
      some (if negative then -(n : Int) else n)
    else none

def digitRun (cs : List Char) : List Nat × List Char :=
  let run := cs.takeWhile fun c => (Text.digitValue? c).isSome
  (run.filterMap Text.digitValue?, cs.drop run.length)

def magnitude? (negative : Bool) (cs : List Char) : Option Binary64 := do
  let (whole, rest) := digitRun cs
  let (places, rest) := match rest with
    | '.' :: rest => digitRun rest
    | rest => ([], rest)
  if whole.isEmpty && places.isEmpty then none
  let e ← exponentText? rest
  return Decimal.toBinary64 negative ((whole ++ places).foldl (10 * · + ·) 0) (e - places.length)

/-- The fraction that a text is; blanks around it and a sign may be there. -/
def fractionText (cs : List Char) : Reading Binary64 :=
  let (negative, rest) := signed (Text.trimBoth Text.isSpacing cs)
  let special := (specialNumber? rest).map fun x => if negative then x.negate else x
  match special.or (magnitude? negative rest) with
  | some x => .ok x
  | none =>
    .error (.unfit ("could not convert string to float: " ++ Text.quoted (String.ofList cs)))

/-- The sum of parts, of which each counts sixty times what the next one does; the last part is the
first to be added. -/
def sixties : (weight : Nat) → List Binary64 → Binary64 → Binary64
  | _, [], sum => sum
  | weight, x :: xs, sum => sixties (60 * weight) xs (sum.add (x.scale weight))

def fraction (cs : List Char) : Reading Binary64 := do
  let cs := (withoutUnderscores cs).flatMap Text.lowerChar
  if cs.isEmpty then throw .emptyNumber
  let (negative, cs) := signed cs
  if cs = ".nan".toList then return .notANumber
  let x ←
    if cs = ".inf".toList then pure (.infinite false)
    else if cs.contains ':' then do
      let parts ← (colonParts cs).mapM fractionText
      pure (sixties 1 parts.reverse .zero)
    else fractionText cs
  return if negative then x.negate else x

end BundleWright.Yaml
