/-!
Decimal numbers as they are written, and the numbers of double precision they stand for. A decimal
is read as the nearest double, a tie going to the even neighbour; magnitudes beyond the range become
infinite, tiny ones zero. A double is shown by the fewest digits that read back as itself.
-/
namespace BundleWright

/-- The number `mantissa * 10 ^ exponent`. -/
structure Decimal where
  mantissa : Int
  exponent : Int
  deriving DecidableEq, Repr

/-- A number of double precision: `± mantissa * 2 ^ exponent`, or no finite number. -/
inductive Binary64 where
  | finite (negative : Bool) (mantissa : Nat) (exponent : Int)
  | infinite (negative : Bool)
  | notANumber
  deriving DecidableEq, Repr

/-- A quotient of natural numbers rounded to the nearest one, ties to even. -/
def roundHalfEven (num den : Nat) : Nat :=
  let q := num / den
  let r := num % den
  if 2 * r < den then q else if den < 2 * r then q + 1 else q + q % 2

def scaleRatio (base num den : Nat) (shift : Int) : Nat × Nat :=
  if 0 ≤ shift then (num * base.pow shift.toNat, den) else (num, den * base.pow (-shift).toNat)

namespace Binary64

def zero : Binary64 := .finite false 0 0

def ofRatio (negative : Bool) (num den : Nat) : Binary64 :=
  if num = 0 then .finite negative 0 0
  else
    let start : Int := max (-1074) ((Nat.log2 num : Int) - Nat.log2 den - 53)
    let first := scaleRatio 2 num den (-start)
    let e := if first.1 / first.2 < Nat.pow 2 53 then start else start + 1
    let (n, d) := scaleRatio 2 num den (-e)
    let m := roundHalfEven n d
    if 0 ≤ e && Nat.pow 2 1024 ≤ m * Nat.pow 2 e.toNat then .infinite negative else .finite negative m e

def ratio? : Binary64 → Option (Nat × Nat)
  | .finite _ m e => some (scaleRatio 2 m 1 e)
  | _ => none

def toInt? (x : Binary64) : Option Int :=
  match x, x.ratio? with
  | .finite negative _ _, some (n, d) =>
    if n % d = 0 then some (if negative then -(n / d : Nat) else (n / d : Nat)) else none
  | _, _ => none

/-- Whether two doubles are the same number; nothing but itself equals a double that is none. -/
def sameNumber (x y : Binary64) : Bool :=
  match x.ratio?, y.ratio? with
  | some (a, b), some (c, d) =>
    a * d == c * b && (a == 0 || match x, y with
      | .finite s _ _, .finite t _ _ => s == t
      | _, _ => false)
  | _, _ => x == y

def negate : Binary64 → Binary64
  | .finite s m e => .finite (!s) m e
  | .infinite s => .infinite (!s)
  | .notANumber => .notANumber

def add (x y : Binary64) : Binary64 :=
  match x, y with
  | .finite s m e, .finite t n f =>
    let (a, b) := scaleRatio 2 m 1 e
    let (c, d) := scaleRatio 2 n 1 f
    let signed (negative : Bool) (k : Nat) : Int := if negative then -(k : Int) else k
    let sum := signed s (a * d) + signed t (c * b)
    ofRatio (if sum = 0 then s && t else sum < 0) sum.natAbs (b * d)
  | .infinite s, .infinite t => if s = t then .infinite s else .notANumber
  | .notANumber, _ | _, .notANumber => .notANumber
  | .infinite s, _ | _, .infinite s => .infinite s

def scale (x : Binary64) (k : Nat) : Binary64 :=
  match x with
  | .finite s m e =>
    let (a, b) := scaleRatio 2 m 1 e
    ofRatio s (a * k) b
  | x => x

end Binary64

namespace Decimal

def toBinary64 (negative : Bool) (magnitude : Nat) (exponent : Int) : Binary64 :=
  let size : Int := (Nat.toDigits 10 magnitude).length + exponent
  if magnitude = 0 || size < -330 then .finite negative 0 0
  else if 310 < size then .infinite negative
  else
    let (n, d) := scaleRatio 10 magnitude 1 exponent
    Binary64.ofRatio negative n d

end Decimal

/-- The digits of a positive decimal below one, `0.d₁d₂… * 10 ^ point`. -/
structure ShortDigits where
  digits : List Char
  point : Int
  deriving DecidableEq, Repr

namespace Binary64

/-- Where the first digit of a positive quotient stands: the least `k` with `n / d < 10 ^ k`, found
from a guess that is off by one at most. -/
def decimalPoint (n d : Nat) : Int :=
  let guess : Int := (Nat.toDigits 10 n).length - (Nat.toDigits 10 d).length
  let (a, b) := scaleRatio 10 n d (-guess)
  if a < b then guess else guess + 1

/-- The multiple of `10 ^ (point - count)` nearest to a double among its two neighbours, if it reads
back as the double; a tie goes to the even one. -/
def onGrid? (x : Binary64) (n d : Nat) (point : Int) (count : Nat) : Option Nat :=
  let (a, b) := scaleRatio 10 n d (count - point)
  let reads (k : Nat) : Bool :=
    sameNumber (Decimal.toBinary64 false k (point - count)) x
  let q := a / b
  let near := roundHalfEven a b
  let far := if near = q then q + 1 else q
  if reads near then some near else if reads far then some far else none

/-- The fewest digits that read back, of several such the nearest. -/
def shortest (x : Binary64) : ShortDigits :=
  match x with
  | .finite _ m e =>
    let x := Binary64.finite false m e
    let (n, d) := scaleRatio 2 m 1 e
    if n = 0 then ⟨['0'], 1⟩
    else
      let point := decimalPoint n d
      match (List.range' 1 17).findSome? fun count =>
          (onGrid? x n d point count).map fun k => (k, count) with
      | some (k, count) =>
        let ds := Nat.toDigits 10 k
        ⟨(ds.reverse.dropWhile (· = '0')).reverse, point + ds.length - count⟩
      | none => ⟨['0'], 1⟩
  | _ => ⟨['0'], 1⟩

def exponentText (e : Int) : String :=
  let ds := Nat.toDigits 10 e.natAbs
  (if e < 0 then "-" else "+") ++ String.ofList (if ds.length < 2 then '0' :: ds else ds)

/-- A positive decimal as it is written: with a point for magnitudes from a ten-thousandth up to ten
to the sixteenth, with an exponent otherwise. -/
def shortText (s : ShortDigits) : String :=
  let zeros (n : Int) : List Char := List.replicate n.toNat '0'
  if -4 < s.point && s.point ≤ 16 then
    if s.point ≤ 0 then String.ofList ('0' :: '.' :: zeros (-s.point) ++ s.digits)
    else
      let whole := s.digits.take s.point.toNat ++ zeros (s.point - s.digits.length)
      let places := s.digits.drop s.point.toNat
      String.ofList (whole ++ '.' :: if places.isEmpty then ['0'] else places)
  else
    let places := s.digits.drop 1
    String.ofList (s.digits.take 1 ++ if places.isEmpty then [] else '.' :: places) ++ "e" ++
      exponentText (s.point - 1)

def text (infinity notANumber : String) (x : Binary64) : String :=
  let signed (negative : Bool) (s : String) : String := if negative then "-" ++ s else s
  match x with
  | .finite negative _ _ => signed negative (shortText x.shortest)
  | .infinite negative => signed negative infinity
  | .notANumber => notANumber

end Binary64

end BundleWright
