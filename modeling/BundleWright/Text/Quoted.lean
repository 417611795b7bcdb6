import BundleWright.Text.Printable
/-!
Quoted literals, the form in which messages show a name: in single quotes, or in double quotes when
the text holds a single quote and no double one.
-/
namespace BundleWright.Text

def hexDigits : (width : Nat) → Nat → List Char
  | 0, _ => []
  | w + 1, n => hexDigits w (n / 16) ++ [Nat.digitChar (n % 16)]

def quoteMark (codes : List Nat) : Char :=
  if codes.contains '\''.toNat && !codes.contains '"'.toNat then '"' else '\''

def escapeCode (n : Nat) : List Char :=
  if n < 0x100 then ['\\', 'x'] ++ hexDigits 2 n
  else if n < 0x10000 then ['\\', 'u'] ++ hexDigits 4 n
  else ['\\', 'U'] ++ hexDigits 8 n

def shortEscape? (mark : Char) (n : Nat) : Option (List Char) :=
  if n = mark.toNat then some ['\\', mark]
  else if n = '\\'.toNat then some ['\\', '\\']
  else if n = '\n'.toNat then some ['\\', 'n']
  else if n = '\r'.toNat then some ['\\', 'r']
  else if n = '\t'.toNat then some ['\\', 't']
  else none

def writeCode (mark : Char) (n : Nat) : List Char :=
  (shortEscape? mark n).getD
    (if n.isValidChar && isPrintable (Char.ofNat n) then [Char.ofNat n] else escapeCode n)

def quotedCodes (codes : List Nat) : String :=
  let mark := quoteMark codes
  String.ofList (mark :: codes.flatMap (writeCode mark) ++ [mark])

def quoted (s : String) : String := quotedCodes (s.toList.map Char.toNat)

/-- The literal of bytes, of which ASCII is shown as text. -/
def quotedBytes (bs : List UInt8) : String :=
  let codes := bs.map UInt8.toNat
  let mark := quoteMark codes
  let write (n : Nat) : List Char :=
    (shortEscape? mark n).getD (if 32 ≤ n && n < 127 then [Char.ofNat n] else escapeCode n)
  String.ofList ('b' :: mark :: codes.flatMap write ++ [mark])

end BundleWright.Text
