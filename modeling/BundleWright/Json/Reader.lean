import BundleWright.Datum
/-!
Reading JSON text. One value with blanks around it is a document; a repeated key keeps its place and
takes the last value; raw control characters are refused in strings. A reading that fails does so at
the first thing that is wrong.
-/
namespace BundleWright.Json

inductive ReadFault where
  | malformed
  | tooManyDigits (count : Nat)
  deriving DecidableEq, Repr

abbrev Reading := Except ReadFault

def mostDigits : Nat := 4300

def isSpace (c : Char) : Bool := c = ' ' || c = '\t' || c = '\n' || c = '\r'

def skipSpace (cs : List Char) : List Char := cs.dropWhile isSpace

def hexValue? (c : Char) : Option Nat :=
  if c.isDigit then some (c.toNat - 48)
  else if 'a' ≤ c && c ≤ 'f' then some (c.toNat - 87)
  else if 'A' ≤ c && c ≤ 'F' then some (c.toNat - 55)
  else none

def hexNumber? (cs : List Char) : Option Nat :=
  cs.foldlM (fun n c => (hexValue? c).map (16 * n + ·)) 0

def isHighHalf (n : Nat) : Bool := 0xD800 ≤ n && n < 0xDC00

def isLowHalf (n : Nat) : Bool := 0xDC00 ≤ n && n < 0xE000

/-- The code points read so far, last first. -/
structure Written where
  done : List Nat
  /-- Whether the last one is half a surrogate pair that waits for the other. -/
  waiting : Bool

def Written.push (w : Written) (c : Char) : Written := ⟨c.toNat :: w.done, false⟩

/-- Adds a UTF-16 unit that was written as an escape; two halves of a pair become one. -/
def Written.pushUnit (w : Written) (n : Nat) : Written :=
  match w.waiting && isLowHalf n, w.done with
  | true, high :: done => ⟨(0x10000 + (high - 0xD800) * 0x400 + (n - 0xDC00)) :: done, false⟩
  | _, done => ⟨n :: done, isHighHalf n⟩

def escape? : Char → Option Char
  | '"' => some '"'
  | '\\' => some '\\'
  | '/' => some '/'
  | 'b' => some '\x08'
  | 'f' => some '\x0c'
  | 'n' => some '\n'
  | 'r' => some '\r'
  | 't' => some '\t'
  | _ => none

/-- The rest of a string after its opening quote: its code points and what follows it. -/
def readString (w : Written) : List Char → Option (List Nat × List Char)
  | [] => none
  | '"' :: rest => some (w.done.reverse, rest)
  | '\\' :: 'u' :: a :: b :: c :: d :: rest =>
    match hexNumber? [a, b, c, d] with
    | none => none
    | some n => readString (w.pushUnit n) rest
  | '\\' :: c :: rest =>
    match escape? c with
    | none => none
    | some x => readString (w.push x) rest
  | c :: rest => if c.toNat < 32 then none else readString (w.push c) rest

def string (cs : List Char) : Reading (Scalar × List Char) :=
  match readString ⟨[], false⟩ cs with
  | some (codes, rest) => .ok (.ofCodes codes, rest)
  | none => .error .malformed

def digitsValue (cs : List Char) : Nat := cs.foldl (fun n c => 10 * n + (c.toNat - 48)) 0

def readFraction : List Char → Option (List Char × List Char)
  | '.' :: c :: rest =>
    if c.isDigit then
      some (c :: rest.takeWhile Char.isDigit, rest.dropWhile Char.isDigit)
    else none
  | _ => none

def readExponent : List Char → Option (Int × List Char)
  | e :: rest =>
    if e = 'e' || e = 'E' then
      let (sign, digits) : Int × List Char := match rest with
        | '-' :: r => (-1, r)
        | '+' :: r => (1, r)
        | r => (1, r)
      let ds := digits.takeWhile Char.isDigit
      if ds.isEmpty then none
      else some (sign * digitsValue ds, digits.dropWhile Char.isDigit)
    else none
  | [] => none

def readMagnitude (negative : Bool) (cs : List Char) : Reading (Datum × List Char) :=
  let whole := match cs with
    | '0' :: _ => ['0']
    | _ => cs.takeWhile Char.isDigit
  if whole.isEmpty then .error .malformed
  else
    let rest := cs.drop whole.length
    let fraction := readFraction rest
    let (fs, rest) := fraction.getD ([], rest)
    let exponent := readExponent rest
    let (e, rest) := exponent.getD (0, rest)
    let n := digitsValue (whole ++ fs)
    if fraction.isSome || exponent.isSome then
      .ok (.float (Decimal.toBinary64 negative n (e - fs.length)), rest)
    else if mostDigits < whole.length then .error (.tooManyDigits whole.length)
    else .ok (.int (if negative then -n else n), rest)

mutual

def readValue : (fuel : Nat) → List Char → Reading (Datum × List Char)
  | 0, _ => .error .malformed
  | fuel + 1, cs =>
    match skipSpace cs with
    | 'n' :: 'u' :: 'l' :: 'l' :: rest => .ok (.null, rest)
    | 't' :: 'r' :: 'u' :: 'e' :: rest => .ok (.bool true, rest)
    | 'f' :: 'a' :: 'l' :: 's' :: 'e' :: rest => .ok (.bool false, rest)
    | 'N' :: 'a' :: 'N' :: rest => .ok (.float .notANumber, rest)
    | 'I' :: 'n' :: 'f' :: 'i' :: 'n' :: 'i' :: 't' :: 'y' :: rest =>
      .ok (.float (.infinite false), rest)
    | '-' :: 'I' :: 'n' :: 'f' :: 'i' :: 'n' :: 'i' :: 't' :: 'y' :: rest =>
      .ok (.float (.infinite true), rest)
    | '"' :: rest => (string rest).map fun p => (.scalar p.1, p.2)
    | '[' :: rest =>
      match skipSpace rest with
      | ']' :: rest => .ok (.arr [], rest)
      | rest => (readItems fuel rest).map fun p => (.arr p.1, p.2)
    | '\x7b' :: rest =>
      match skipSpace rest with
      | '\x7d' :: rest => .ok (.obj [], rest)
      | rest => (readFields fuel [] rest).map fun p => (.obj p.1, p.2)
    | '-' :: rest => readMagnitude true rest
    | rest => readMagnitude false rest

def readItems : (fuel : Nat) → List Char → Reading (List Datum × List Char)
  | 0, _ => .error .malformed
  | fuel + 1, cs => do
    let (v, rest) ← readValue fuel cs
    match skipSpace rest with
    | ']' :: rest => return ([v], rest)
    | ',' :: rest =>
      let (vs, rest) ← readItems fuel rest
      return (v :: vs, rest)
    | _ => throw .malformed

def readFields : (fuel : Nat) → Fields → List Char → Reading (Fields × List Char)
  | 0, _, _ => .error .malformed
  | fuel + 1, done, cs => do
    let .cons '"' rest := skipSpace cs | throw .malformed
    let (key, rest) ← string rest
    let .cons ':' rest := skipSpace rest | throw .malformed
    let (v, rest) ← readValue fuel rest
    let done := done.put key v
    match skipSpace rest with
    | '\x7d' :: rest => return (done, rest)
    | ',' :: rest => readFields fuel done rest
    | _ => throw .malformed

end

/-- The value a text is the document of; every step of the reader takes a character, so the length
of the text bounds their number. -/
def parse (s : String) : Reading Datum := do
  let cs := s.toList
  let (v, rest) ← readValue (cs.length + 1) cs
  if (skipSpace rest).isEmpty then return v else throw .malformed

end BundleWright.Json
