import BundleWright.Checked
import BundleWright.Text.Blank
import BundleWright.Text.Split
/-!
Reading single values out of data: texts, truth values, numbers, lists, and the fields of an object.
Numbers and truth values are also accepted in their written forms.
-/
namespace BundleWright.Checked

variable {α : Type}

def decoded? (bs : List UInt8) : Option String := String.fromUTF8? ⟨bs.toArray⟩

def string (d : Datum) : Checked String :=
  match d with
  | .str s => .sound s
  | .scalar (.halves _) => fail .stringUnicode d
  | .scalar (.bytes bs) =>
    match decoded? bs with
    | some s => .sound s
    | none => fail .stringUnicode d
  | _ => fail .stringType d

def optional (read : Datum → Checked α) : Datum → Checked (Option α)
  | .null => .sound none
  | j => some <$> read j

def items (read : Datum → Checked α) (start : Nat) : List Datum → List (Checked α)
  | [] => []
  | j :: rest => (read j).under (toString start) :: items read (start + 1) rest

def list (read : Datum → Checked α) (d : Datum) : Checked (List α) :=
  match d with
  | .group _ js => all (items read 0 js)
  | _ => fail .listType d

def strings : Datum → Checked (List String) := list string

def truthWord? (s : String) : Option Bool :=
  let w := Text.lowerAscii s
  if ["0", "off", "f", "false", "n", "no"].contains w then some false
  else if ["1", "on", "t", "true", "y", "yes"].contains w then some true
  else none

def wordBound : Int := 0x8000000000000000

def fitsWord (n : Int) : Bool := -wordBound ≤ n && n < wordBound

def bool (d : Datum) : Checked Bool :=
  let ofWord (s : Option String) : Checked Bool :=
    match s.bind truthWord? with
    | some b => .sound b
    | none => fail .boolParsing d
  match d with
  | .bool b => .sound b
  | .int n =>
    if n = 0 then .sound false
    else if n = 1 then .sound true
    else if fitsWord n then fail .boolParsing d
    else fail .boolType d
  | .float x =>
    match x.toInt? with
    | some 0 => .sound false
    | some 1 => .sound true
    | _ => fail .boolType d
  | .str s => ofWord (some s)
  | .scalar (.halves _) => fail .stringUnicode d
  | .scalar (.bytes bs) => ofWord (decoded? bs)
  | _ => fail .boolType d

/-- Drops what stands for nothing before the digits of a number: zeros, with underscores among them.
One zero stays where no other digit follows; a minus sign may follow. -/
def dropZeros : List Char → List Char
  | [] => []
  | [c] => [c]
  | a :: c :: rest =>
    if c = '.' then a :: c :: rest
    else if c = '0' || c = '_' then dropZeros (c :: rest)
    else c :: rest

/-- The digits after the leading zeros; `none` where something else comes first. -/
def significant? : List Char → Option (List Char)
  | '0' :: rest => some (dropZeros ('0' :: rest))
  | c :: rest => if c.isDigit || c = '-' then some (c :: rest) else none
  | [] => none

def dropFraction (cs : List Char) : List Char :=
  match Text.cut? '.' cs with
  | some (whole, zeros) => if !zeros.isEmpty && zeros.all (· = '0') then whole else cs
  | none => cs

def dropUnderscores (cs : List Char) : List Char :=
  if (Text.splitOn '_' cs).any (·.isEmpty) then cs else cs.filter (· != '_')

/-- The sign of a written integer and what follows it, without what has no meaning. -/
def plainInt? (s : String) : Option (Bool × List Char) :=
  let clean (cs : List Char) : Option (List Char) :=
    (significant? cs).map (dropUnderscores ∘ dropFraction)
  let split (cs : List Char) : Bool × List Char :=
    match cs with
    | '-' :: rest => (true, rest)
    | cs => (false, cs)
  match Text.trimBoth Text.isSpacing s.toList with
  | '+' :: '-' :: _ | '-' :: '+' :: _ => none
  | '-' :: rest => (clean rest).map (true, ·)
  | '+' :: rest => (clean rest).map split
  | cs => (clean cs).map split

def mostDigits : Nat := 4300

/-- A written integer: blanks around it, one sign, leading zeros, single underscores between digits
and a fraction of zeros are allowed. -/
def writtenInt (s : String) (d : Datum) : Checked Int :=
  match plainInt? s with
  | none => fail .intParsing d
  | some (negative, cs) =>
    if mostDigits < (cs.takeWhile Char.isDigit).length then fail .intParsingSize d
    else if cs.isEmpty || !cs.all Char.isDigit then fail .intParsing d
    else
      let n : Nat := cs.foldl (fun n c => 10 * n + (c.toNat - 48)) 0
      .sound (if negative then -n else n)

def int (d : Datum) : Checked Int :=
  match d with
  | .int n => .sound n
  | .bool b => .sound (if b then 1 else 0)
  | .float x =>
    match x with
    | .finite _ _ _ =>
      match x.toInt? with
      | none => fail .intFromFloat d
      | some n => if -wordBound < n && n < wordBound then .sound n else fail .intParsingSize d
    | _ => fail .finiteNumber d
  | .str s => writtenInt s d
  | .scalar (.halves _) => fail .stringUnicode d
  | .scalar (.bytes bs) =>
    match decoded? bs with
    | some s => writtenInt s d
    | none => fail .intParsing d
  | _ => fail .intType d

def fields (d : Datum) : Checked Fields :=
  match d with
  | .obj fs => .sound fs
  | _ => fail .modelType d

/-- A field that may be left out, when it stands for `default`. -/
def field (fs : Fields) (key : String) (default : α) (read : Datum → Checked α) : Checked α :=
  match fs.get? key with
  | none => .sound default
  | some j => (read j).under key

def required (fs : Fields) (key : String) (read : Datum → Checked α) : Checked α :=
  match fs.get? key with
  | none => (fail .missing (.obj fs)).under key
  | some j => (read j).under key

def keyText : Scalar → String
  | .str s => s
  | .bool b => if b then "1" else "0"
  | .halves codes =>
    String.ofList (codes.flatMap fun n =>
      if Scalar.isHalf n then List.replicate 3 '\uFFFD' else [Char.ofNat n])
  | k => k.literal

def foreignFlaw? (known : List String) (f : Scalar × Datum) : Option Flaw :=
  match f.1 with
  | .str k => if known.contains k then none else some ⟨[k], .extraForbidden, f.2⟩
  | k => some ⟨[keyText k], .invalidKey, .scalar k⟩

def noOthers (fs : Fields) (known : List String) : Checked Unit :=
  match fs.filterMap (foreignFlaw? known) with
  | [] => .sound ()
  | flaws => .flawed flaws

end BundleWright.Checked
