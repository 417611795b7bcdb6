import BundleWright.Datum
import BundleWright.Text.Quoted
/-!
Writing data values as JSON text: on one line, or with two blanks of indentation per level.
Characters beyond ASCII are written as themselves or as escapes of UTF-16 units. Values that JSON
has no notation for are written as arrays and texts.
-/
namespace BundleWright.Json

inductive Charset where
  | unicode
  | ascii
  deriving DecidableEq

def unitEscape (n : Nat) : List Char := ['\\', 'u'] ++ Text.hexDigits 4 n

def writeCode (charset : Charset) (n : Nat) : List Char :=
  if n = '"'.toNat then ['\\', '"']
  else if n = '\\'.toNat then ['\\', '\\']
  else if n = '\n'.toNat then ['\\', 'n']
  else if n = '\r'.toNat then ['\\', 'r']
  else if n = '\t'.toNat then ['\\', 't']
  else if n = 8 then ['\\', 'b']
  else if n = 12 then ['\\', 'f']
  else if n < 32 || Scalar.isHalf n then unitEscape n
  else if charset = .unicode || n < 127 then [Char.ofNat n]
  else if n < 0x10000 then unitEscape n
  else
    unitEscape (0xD800 + (n - 0x10000) / 0x400) ++ unitEscape (0xDC00 + (n - 0x10000) % 0x400)

def writeCodes (charset : Charset) (codes : List Nat) : String :=
  String.ofList ('"' :: codes.flatMap (writeCode charset) ++ ['"'])

def writeString (charset : Charset) (s : String) : String :=
  writeCodes charset (s.toList.map Char.toNat)

def writeFloat (x : Binary64) : String := x.text "Infinity" "NaN"

def writeScalar (charset : Charset) : Scalar → String
  | .null => "null"
  | .bool true => "true"
  | .bool false => "false"
  | .int n => toString n
  | .float x => writeFloat x
  | .str s => writeString charset s
  | .halves codes => writeCodes charset codes
  | .bytes bs => writeCodes charset (bs.map UInt8.toNat)
  | .other _ literal => writeString charset literal

/-- A key, which is always a string; that of a value without quotes is its text. -/
def writeKey (charset : Charset) : Scalar → String
  | .null => writeString charset "null"
  | .bool b => writeString charset (if b then "true" else "false")
  | .int n => writeString charset (toString n)
  | .float x => writeString charset (writeFloat x)
  | k => writeScalar charset k

mutual

def compact : Datum → String
  | .scalar s => writeScalar .unicode s
  | .group _ items => "[" ++ String.intercalate "," (compactItems items) ++ "]"
  | .obj fields => "\x7b" ++ String.intercalate "," (compactFields fields) ++ "\x7d"

def compactItems : List Datum → List String
  | [] => []
  | j :: rest => compact j :: compactItems rest

def compactFields : List (Scalar × Datum) → List String
  | [] => []
  | (k, v) :: rest => (writeKey .unicode k ++ ":" ++ compact v) :: compactFields rest

end

/-- A bracketed block with one entry a line, closed at the given indentation. -/
def block (opening closing : String) (indent : Nat) (entries : List String) : String :=
  if entries.isEmpty then opening ++ closing
  else
    let pad (n : Nat) : String := String.ofList (List.replicate n ' ')
    opening ++ "\n" ++ String.intercalate ",\n" (entries.map (pad (indent + 2) ++ ·)) ++ "\n" ++
      pad indent ++ closing

mutual

def indented (charset : Charset) (indent : Nat) : Datum → String
  | .scalar s => writeScalar charset s
  | .group _ items => block "[" "]" indent (indentedItems charset indent items)
  | .obj fields => block "\x7b" "\x7d" indent (indentedFields charset indent fields)

def indentedItems (charset : Charset) (indent : Nat) : List Datum → List String
  | [] => []
  | j :: rest => indented charset (indent + 2) j :: indentedItems charset indent rest

def indentedFields (charset : Charset) (indent : Nat) : List (Scalar × Datum) → List String
  | [] => []
  | (k, v) :: rest =>
    (writeKey charset k ++ ": " ++ indented charset (indent + 2) v) ::
      indentedFields charset indent rest

end

def pretty (charset : Charset) (j : Datum) : String := indented charset 0 j

end BundleWright.Json
