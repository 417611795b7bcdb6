import BundleWright.Yaml.Block
import BundleWright.Yaml.Plain
import BundleWright.Yaml.Quoted
import BundleWright.Yaml.Token
/-!
From the text of a YAML document to its words. Indentation gives words of its own, which open and
close block collections. Whether a word is the key of a mapping shows only when its colon is met: the
places where keys may stand are kept until then, and the words for a key are put in behind.
-/
namespace BundleWright.Yaml

structure KeyPlace where
  /-- How many words come before it. -/
  position : Nat
  /-- Whether nothing but a key can stand there. -/
  required : Bool
  place : Cursor

structure Lexer where
  place : Cursor
  /-- The words so far, last first. -/
  done : List Token := []
  /-- How many brackets are open. -/
  flowLevel : Nat := 0
  /-- The column of the innermost block collection, or `-1`. -/
  indent : Int := -1
  indents : List Int := []
  keyAllowed : Bool := true
  /-- The places for keys, at most one for each number of open brackets. -/
  keys : List (Nat × KeyPlace) := []

namespace Lexer

def inFlow (l : Lexer) : Bool := 0 < l.flowLevel

def rest (l : Lexer) : List Char := l.place.rest

def column (l : Lexer) : Int := l.place.column

def push (t : Token) (l : Lexer) : Lexer := { l with done := t :: l.done }

def take (count : Nat) (t : Token) (l : Lexer) : Lexer :=
  { l.push t with place := l.place.skip count }

def takeUpTo (rest : List Char) (t : Token) (l : Lexer) : Lexer :=
  { l.push t with place := l.place.upTo rest }

def insertAt (position : Nat) (t : Token) (l : Lexer) : Lexer :=
  { l with done := l.done.insertIdx (l.done.length - position) t }

def allowKey (allowed : Bool) (l : Lexer) : Lexer := { l with keyAllowed := allowed }

/-- Whether a place is too far back for its key to end here. -/
def isStale (l : Lexer) (k : KeyPlace) : Bool :=
  k.place.line ≠ l.place.line || 1024 < l.place.index - k.place.index

def dropStale (l : Lexer) : Reading Lexer :=
  let (stale, keys) := l.keys.partition fun k => l.isStale k.2
  if stale.any (·.2.required) then .error .malformed else .ok { l with keys }

def dropKey (l : Lexer) : Reading Lexer :=
  match l.keys.lookup l.flowLevel with
  | some k =>
    if k.required then .error .malformed
    else .ok { l with keys := l.keys.filter (·.1 ≠ l.flowLevel) }
  | none => .ok l

def markKey (l : Lexer) : Reading Lexer :=
  if l.keyAllowed then do
    let l ← l.dropKey
    let key := ⟨l.done.length, !l.inFlow && l.indent = l.column, l.place⟩
    return { l with keys := (l.flowLevel, key) :: l.keys }
  else .ok l

def closeDeeper (column : Int) (l : Lexer) : Lexer :=
  if l.inFlow then l
  else
    let deeper := (l.indent :: l.indents).takeWhile (column < ·)
    let left := (l.indent :: l.indents).drop deeper.length
    { l with
      indent := left.headD (-1)
      indents := left.tail
      done := deeper.map (fun _ => .blockEnd) ++ l.done }

/-- Makes a column the innermost one, if it is deeper; tells whether it was. -/
def openAt (column : Int) (l : Lexer) : Lexer × Bool :=
  if l.indent < column then ({ l with indent := column, indents := l.indent :: l.indents }, true)
  else (l, false)

/-- Goes over blanks, comments and line ends, behind which keys may stand. -/
def skipFiller (l : Lexer) : Lexer :=
  let start := if l.place.index = 0 && l.rest.head? = some '\uFEFF' then l.place.step else l.place
  let (rest, broke) := dropFiller false false start.rest
  { l with place := start.upTo rest, keyAllowed := l.keyAllowed || (broke && !l.inFlow) }

def takeBoundary (rest : List Char) (t : Token) (l : Lexer) : Reading Lexer := do
  let l ← (l.closeDeeper (-1)).dropKey
  return (l.takeUpTo rest t).allowKey false

def takeOpening (t : Token) (l : Lexer) : Reading Lexer := do
  let l ← l.markKey
  return { (l.take 1 t).allowKey true with flowLevel := l.flowLevel + 1 }

def takeClosing (t : Token) (l : Lexer) : Reading Lexer := do
  let l ← l.dropKey
  if !l.inFlow then throw .malformed
  return { (l.take 1 t).allowKey false with flowLevel := l.flowLevel - 1 }

/-- A mark in front of an entry, a key or a value, which outside brackets may open a collection. -/
def takeMark (opening : Option Token) (keyAfter : Bool) (t : Token) (l : Lexer) :
    Reading Lexer := do
  let l ←
    if l.inFlow then pure l
    else if !l.keyAllowed then throw .malformed
    else match opening with
      | some opening =>
        let (opened, isNew) := l.openAt l.column
        pure (if isNew then opened.push opening else l)
      | none => pure l
  let l ← (l.allowKey keyAfter).dropKey
  return l.take 1 t

def takeValue (l : Lexer) : Reading Lexer :=
  match l.keys.lookup l.flowLevel with
  | some k =>
    let l := { l with keys := l.keys.filter (·.1 ≠ l.flowLevel) }.insertAt k.position .key
    let (opened, isNew) := if l.inFlow then (l, false) else l.openAt k.place.column
    let l := if isNew then opened.insertAt k.position .blockMapping else l
    .ok ((l.take 1 .value).allowKey false)
  | none => l.takeMark (some .blockMapping) (!l.inFlow) .value

/-- A word that may be a key; `read` gives it with what follows it. -/
def takeWord (read : Reading (Token × List Char)) (l : Lexer) : Reading Lexer := do
  let l ← l.markKey
  let (t, rest) ← read
  return (l.takeUpTo rest t).allowKey false

def takePlain (l : Lexer) : Reading Lexer := do
  let l ← l.markKey
  let plain := plainText l.inFlow (l.indent + 1) l.place.column l.rest
  return (l.takeUpTo plain.rest (.scalar (plain.text.map Char.toNat) true)).allowKey plain.broke

def takeBlockText (folded : Bool) (l : Lexer) : Reading Lexer := do
  let l ← (l.allowKey true).dropKey
  let (text, rest) ← blockText folded l.indent l.rest.tail
  return l.takeUpTo rest (.scalar (text.map Char.toNat) false)

def startsPlain (inFlow : Bool) : List Char → Bool
  | [] => false
  | c :: rest =>
    !(isBlank c || isBreak c || "-?:,[]\x7b\x7d#&*!|>'\"%@\x60".toList.contains c) ||
      (!endsWord rest && (c = '-' || (!inFlow && (c = '?' || c = ':'))))

def quotedToken (p : List Nat × List Char) : Token × List Char := (.scalar p.1 false, p.2)

def takeNext (l : Lexer) (c : Char) (rest : List Char) : Reading Lexer :=
  let markEnds := l.inFlow || endsWord rest
  if c = '%' && l.column = 0 then do
    let (t, rest) ← directive rest
    l.takeBoundary rest t
  else if l.column = 0 && atDocumentMark l.rest then
    l.takeBoundary (l.rest.drop 3) (if c = '-' then .documentStart else .documentEnd)
  else if c = '[' then l.takeOpening .flowSequence
  else if c = '\x7b' then l.takeOpening .flowMapping
  else if c = ']' then l.takeClosing .flowSequenceEnd
  else if c = '\x7d' then l.takeClosing .flowMappingEnd
  else if c = ',' then do
    let l ← (l.allowKey true).dropKey
    return l.take 1 .flowEntry
  else if c = '-' && endsWord rest then l.takeMark (some .blockSequence) true .blockEntry
  else if c = '?' && markEnds then l.takeMark (some .blockMapping) (!l.inFlow) .key
  else if c = ':' && markEnds then l.takeValue
  else if c = '*' then l.takeWord (required (anchorName? rest) |>.map fun p => (.alias p.1, p.2))
  else if c = '&' then l.takeWord (required (anchorName? rest) |>.map fun p => (.anchor p.1, p.2))
  else if c = '!' then l.takeWord (required (tag? rest))
  else if c = '|' && !l.inFlow then l.takeBlockText false
  else if c = '>' && !l.inFlow then l.takeBlockText true
  else if c = '\'' then l.takeWord ((singleQuoted rest).map quotedToken)
  else if c = '"' then l.takeWord ((doubleQuoted rest).map quotedToken)
  else if startsPlain l.inFlow l.rest then l.takePlain
  else .error .malformed

/-- Reads one word more; `none` after the last. -/
def next (l : Lexer) : Reading (Lexer × Bool) := do
  let l ← l.skipFiller.dropStale
  let l := l.closeDeeper l.column
  match l.rest with
  | [] => do
    let l ← (l.closeDeeper (-1)).dropKey
    return (l.push .streamEnd, false)
  | c :: rest => return (← l.takeNext c rest, true)

/-- The words up to a fault. Those that wait for a key to show itself are not among them. -/
def brokenOff (fault : Fault) (l : Lexer) : List Token :=
  let waiting := (l.keys.filter fun k => !l.isStale k.2).map (·.2.position)
  l.done.reverse.take (waiting.foldl min l.done.length) ++ [.broken fault]

def run : (fuel : Nat) → Lexer → List Token
  | 0, l => l.brokenOff .malformed
  | fuel + 1, l =>
    match l.next with
    | .error fault => l.brokenOff fault
    | .ok (l, true) => run fuel l
    | .ok (l, false) => l.done.reverse

end Lexer

def isAllowed (c : Char) : Bool :=
  let n := c.toNat
  n = 9 || n = 10 || n = 13 || (0x20 ≤ n && n ≤ 0x7E) || n = 0x85 ||
    (0xA0 ≤ n && n ≤ 0xFFFD) || 0x10000 ≤ n

def tokens (cs : List Char) : List Token :=
  if cs.all isAllowed then Lexer.run (cs.length + 1) ⟨⟨cs, 0, 0, 0⟩, [], 0, -1, [], true, []⟩
  else [.broken .malformed]

end BundleWright.Yaml
