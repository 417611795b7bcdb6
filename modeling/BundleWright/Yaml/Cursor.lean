/-!
Places in the text of a YAML document, and the classes of characters that give it its form. Carriage
returns have been turned into newlines before.
-/
namespace BundleWright.Yaml

def isBreak (c : Char) : Bool := c = '\n' || c = '\x85' || c = '\u2028' || c = '\u2029'

def breakText (c : Char) : Char := if c = '\x85' then '\n' else c

def isBlank (c : Char) : Bool := c = ' ' || c = '\t'

def endsLine : List Char → Bool
  | [] => true
  | c :: _ => isBreak c

def endsWord : List Char → Bool
  | [] => true
  | c :: _ => isBlank c || isBreak c

/-- `endsWord` without tabs, which some tokens do not bear behind them. -/
def endsToken (cs : List Char) : Bool := endsLine cs || cs.head? = some ' '

/-- Whether a mark between documents stands here; it counts at the start of a line only. -/
def atDocumentMark : List Char → Bool
  | '-' :: '-' :: '-' :: rest | '.' :: '.' :: '.' :: rest => endsWord rest
  | _ => false

structure Cursor where
  rest : List Char
  index : Nat := 0
  line : Nat := 0
  column : Nat := 0

namespace Cursor

def step (c : Cursor) : Cursor :=
  match c.rest with
  | [] => c
  | x :: rest =>
    if isBreak x then ⟨rest, c.index + 1, c.line + 1, 0⟩
    else ⟨rest, c.index + 1, c.line, if x = '\uFEFF' then c.column else c.column + 1⟩

def skip : Nat → Cursor → Cursor
  | 0, c => c
  | n + 1, c => skip n c.step

def upTo (c : Cursor) (rest : List Char) : Cursor := c.skip (c.rest.length - rest.length)

end Cursor

/-- Goes over blanks, comments and line ends; tells whether there was a line end. -/
def dropFiller (inComment broke : Bool) : List Char → List Char × Bool
  | [] => ([], broke)
  | c :: cs =>
    if isBreak c then dropFiller false true cs
    else if inComment || c = ' ' then dropFiller inComment broke cs
    else if c = '#' then dropFiller true broke cs
    else (c :: cs, broke)

/-- What follows a line that may hold blanks and a comment only. -/
def afterIgnoredLine? (cs : List Char) : Option (List Char) :=
  let cs := cs.dropWhile (· = ' ')
  let cs := if cs.head? = some '#' then cs.dropWhile (!isBreak ·) else cs
  if endsLine cs then some (cs.drop 1) else none

end BundleWright.Yaml
