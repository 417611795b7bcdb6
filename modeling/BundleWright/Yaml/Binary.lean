/-!
Bytes written with sixty-four characters, six bits each. Characters that are none of them are passed
over.
-/
namespace BundleWright.Yaml

def sixBits? (c : Char) : Option Nat :=
  if c.isUpper then some (c.toNat - 65)
  else if c.isLower then some (c.toNat - 71)
  else if c.isDigit then some (c.toNat + 4)
  else if c = '+' then some 62
  else if c = '/' then some 63
  else none

/-- The bytes from here on, where `count` characters of a group of four have been met, the last of
which left `bits` over, and `pads` signs of padding stand behind them. Padding that completes a group
ends the text. -/
def bytesFrom (count bits pads : Nat) : List Char → Option (List UInt8)
  | [] => if count = 0 then some [] else none
  | c :: cs =>
    if c = '=' then
      if 2 ≤ count && 4 ≤ count + pads + 1 then some []
      else bytesFrom count bits (if 2 ≤ count then pads + 1 else pads) cs
    else
      match sixBits? c, count with
      | none, _ => bytesFrom count bits pads cs
      | some b, 0 => bytesFrom 1 b 0 cs
      | some b, 1 => (bytesFrom 2 (b % 16) 0 cs).map ((bits * 4 + b / 16).toUInt8 :: ·)
      | some b, 2 => (bytesFrom 3 (b % 4) 0 cs).map ((bits * 16 + b / 4).toUInt8 :: ·)
      | some b, _ => (bytesFrom 0 0 0 cs).map ((bits * 64 + b).toUInt8 :: ·)

def bytes? (cs : List Char) : Option (List UInt8) :=
  if cs.all (·.toNat < 128) then bytesFrom 0 0 0 cs else none

end BundleWright.Yaml
