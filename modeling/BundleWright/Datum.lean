import BundleWright.Decimal
/-!
Data values: what declaration files, settings and answers are made of. An object keeps the order in
which its keys were first written; its keys are values without parts, most of them texts. Documents
may also hold values that JSON has no notation for.
-/
namespace BundleWright

inductive Scalar where
  | null
  | bool (b : Bool)
  | int (n : Int)
  | float (x : Binary64)
  | str (s : String)
  /-- A text, by its code points, that holds half a surrogate pair. -/
  | halves (codes : List Nat)
  | bytes (bs : List UInt8)
  /-- A value of another kind, such as a date, known by the literal that shows it. -/
  | other (kind literal : String)
  deriving DecidableEq, Repr

inductive Grouping where
  | list
  | tuple
  | set
  deriving DecidableEq, Repr

inductive Datum where
  | scalar (s : Scalar)
  | group (grouping : Grouping) (items : List Datum)
  | obj (fields : List (Scalar × Datum))

/-- The fields of an object, each key once. -/
abbrev Fields := List (Scalar × Datum)

instance : Coe String Scalar := ⟨.str⟩

namespace Scalar

def isHalf (code : Nat) : Bool := 0xD800 ≤ code && code < 0xE000

def ofCodes (codes : List Nat) : Scalar :=
  if codes.any isHalf then .halves codes else .str (String.ofList (codes.map Char.ofNat))

/-- The number a value stands for among keys, where truth values count as numbers. -/
def number? : Scalar → Option Binary64
  | .bool b => some (.finite false b.toNat 0)
  | .int n => some (.finite (n < 0) n.natAbs 0)
  | .float x => some x
  | _ => none

def sameKey (a b : Scalar) : Bool :=
  match a.number?, b.number? with
  | some x, some y => x.sameNumber y
  | _, _ => a == b

def kindWord : Scalar → String
  | .null => "NoneType"
  | .bool _ => "bool"
  | .int _ => "int"
  | .float _ => "float"
  | .str _ | .halves _ => "str"
  | .bytes _ => "bytes"
  | .other kind _ => kind

end Scalar

namespace Fields

/-- Sets a key: in place if it is there, at the end otherwise. -/
def put (key : Scalar) (value : Datum) : Fields → Fields
  | [] => [(key, value)]
  | (k, v) :: rest => if k = key then (k, value) :: rest else (k, v) :: put key value rest

def get? (fields : Fields) (key : Scalar) : Option Datum := fields.lookup key

def keys (fields : Fields) : List Scalar := fields.map (·.1)

/-- Sets a key that may be there in another notation of the same number, which it then keeps. -/
def putSame (key : Scalar) (value : Datum) (fields : Fields) : Fields :=
  fields.put ((fields.keys.find? (·.sameKey key)).getD key) value

theorem mem_keys_put {key k : Scalar} {v : Datum} (fields : Fields) :
    k ∈ keys (put key v fields) ↔ k = key ∨ k ∈ keys fields := by
  induction fields with
  | nil => simp [put, keys]
  | cons kv rest ih =>
    obtain ⟨a, b⟩ := kv
    unfold put
    split
    · next h => simp [keys, h]
    · simp only [keys, List.map_cons, List.mem_cons] at ih ⊢
      rw [ih]
      grind

end Fields

namespace Datum

@[match_pattern] abbrev null : Datum := .scalar .null
@[match_pattern] abbrev bool (b : Bool) : Datum := .scalar (.bool b)
@[match_pattern] abbrev int (n : Int) : Datum := .scalar (.int n)
@[match_pattern] abbrev float (x : Binary64) : Datum := .scalar (.float x)
@[match_pattern] abbrev str (s : String) : Datum := .scalar (.str s)
@[match_pattern] abbrev arr (items : List Datum) : Datum := .group .list items

instance : Inhabited Datum := ⟨.null⟩

def ofOption : Option Datum → Datum
  | none => .null
  | some j => j

def ofString? (s : Option String) : Datum := ofOption (s.map .str)

def ofBool? (b : Option Bool) : Datum := ofOption (b.map .bool)

def ofStrings (l : List String) : Datum := .arr (l.map .str)

def kindWord : Datum → String
  | .scalar s => s.kindWord
  | .group .list _ => "list"
  | .group .tuple _ => "tuple"
  | .group .set _ => "set"
  | .obj _ => "dict"

end Datum

end BundleWright
