import BundleWright.Json.Reader
import BundleWright.Yaml.Cursor
import BundleWright.Yaml.Fault
/-!
The words of a YAML document, and the reading of those that stand in one line: names of anchors,
tags and directives.
-/
namespace BundleWright.Yaml

inductive Token where
  | version (major : Nat)
  /-- A handle and what it stands for at the front of tags. -/
  | handle (name uri : String)
  /-- A directive that means nothing here. -/
  | directive
  | documentStart
  | documentEnd
  | blockSequence
  | blockMapping
  | blockEnd
  | flowSequence
  | flowSequenceEnd
  | flowMapping
  | flowMappingEnd
  | flowEntry
  | blockEntry
  | key
  | value
  | alias (name : String)
  | anchor (name : String)
  | tag (handle : Option String) (suffix : String)
  | scalar (codes : List Nat) (plain : Bool)
  | streamEnd
  /-- What follows is not read. -/
  | broken (fault : Fault)
  deriving DecidableEq, Repr

def isNameChar (c : Char) : Bool := c.isAlphanum || c = '-' || c = '_'

def name? (cs : List Char) : Option (String × List Char) :=
  let name := cs.takeWhile isNameChar
  if name.isEmpty then none else some (String.ofList name, cs.drop name.length)

/-- The name of an anchor; some marks may follow it at once. -/
def anchorName? (cs : List Char) : Option (String × List Char) := do
  let (name, rest) ← name? cs
  if endsWord rest || rest.head?.any "?:,]\x7d%@\x60".toList.contains then return (name, rest)
  none

def isUriChar (c : Char) : Bool := c.isAlphanum || "-;/?:@&=+$,_.!~*'()[]".toList.contains c

def escapedBytes : List Char → Option (List UInt8 × List Char)
  | '%' :: a :: b :: rest => do
    let n ← Json.hexNumber? [a, b]
    let (bytes, rest) ← escapedBytes rest
    return (n.toUInt8 :: bytes, rest)
  | '%' :: _ => none
  | rest => some ([], rest)

/-- The characters of a tag from here on; escaped bytes stand for text in UTF-8. Every step takes a
character, so the length of the text bounds their number. -/
def uriFrom : (fuel : Nat) → List Char → Option (List Char × List Char)
  | 0, cs => some ([], cs)
  | fuel + 1, cs =>
    match cs with
    | '%' :: _ => do
      let (bytes, rest) ← escapedBytes cs
      let text ← String.fromUTF8? ⟨bytes.toArray⟩
      let (more, rest) ← uriFrom fuel rest
      return (text.toList ++ more, rest)
    | c :: rest =>
      if isUriChar c then (uriFrom fuel rest).map fun p => (c :: p.1, p.2) else some ([], cs)
    | [] => some ([], [])

def uri? (cs : List Char) : Option (String × List Char) := do
  if cs.head?.any fun c => c = '%' || isUriChar c then
    let (text, rest) ← uriFrom (cs.length + 1) cs
    return (String.ofList text, rest)
  none

/-- A handle: a name between exclamation marks, or one such mark before a blank. -/
def handle? : List Char → Option (String × List Char)
  | '!' :: ' ' :: rest => some ("!", ' ' :: rest)
  | '!' :: cs =>
    match cs.dropWhile isNameChar with
    | '!' :: rest => some ("!" ++ String.ofList (cs.takeWhile isNameChar) ++ "!", rest)
    | _ => none
  | _ => none

/-- Whether another exclamation mark stands in the word at the front of a text. -/
def hasHandle (cs : List Char) : Bool :=
  (cs.takeWhile fun c => c ≠ ' ' && !isBreak c).contains '!'

def tag? (cs : List Char) : Option (Token × List Char) := do
  let (token, rest) ← match cs with
    | '<' :: rest => do
      let (uri, rest) ← uri? rest
      let .cons '>' rest := rest | none
      pure (.tag none uri, rest)
    | cs =>
      if endsWord cs then pure (.tag none "!", cs)
      else do
        let (handle, rest) ← if hasHandle cs then handle? ('!' :: cs) else some ("!", cs)
        let (suffix, rest) ← uri? rest
        pure (.tag handle suffix, rest)
  if endsToken rest then some (token, rest) else none

def digits? (cs : List Char) : Option (List Char × List Char) :=
  let digits := cs.takeWhile Char.isDigit
  if digits.isEmpty then none else some (digits, cs.drop digits.length)

def version? (cs : List Char) : Option (List Char × List Char × List Char) := do
  let (major, rest) ← digits? (cs.dropWhile (· = ' '))
  let .cons '.' rest := rest | none
  let (minor, rest) ← digits? rest
  if endsToken rest then some (major, minor, rest) else none

def handleMeaning? (cs : List Char) : Option (Token × List Char) := do
  let (handle, rest) ← handle? (cs.dropWhile (· = ' '))
  let .cons ' ' rest := rest | none
  let (uri, rest) ← uri? (rest.dropWhile (· = ' '))
  if endsToken rest then some (.handle handle uri, rest) else none

def checkedNumber (digits : List Char) : Reading Nat :=
  if Json.mostDigits < digits.length then .error (.unfit (tooManyDigitsMessage digits.length))
  else .ok (Json.digitsValue digits)

/-- What an optional reading comes to when its failure is a fault of form. -/
def required {α : Type} : Option α → Reading α
  | some a => .ok a
  | none => .error .malformed

def directive (cs : List Char) : Reading (Token × List Char) := do
  let (name, rest) ← required (name? cs)
  if !endsToken rest then throw .malformed
  let (token, rest) ←
    if name = "YAML" then do
      let (major, minor, rest) ← required (version? rest)
      let major ← checkedNumber major
      let _ ← checkedNumber minor
      pure (.version major, rest)
    else if name = "TAG" then required (handleMeaning? rest)
    else pure (.directive, rest.dropWhile (!isBreak ·))
  return (token, ← required (afterIgnoredLine? rest))

end BundleWright.Yaml
