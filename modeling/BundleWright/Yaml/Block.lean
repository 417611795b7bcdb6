import BundleWright.Yaml.Cursor
import BundleWright.Yaml.Fault
/-!
Block scalars: lines at one indentation, kept as they are or folded into one. A header says how the
line ends behind the last line are treated and how deep the lines are.
-/
namespace BundleWright.Yaml

inductive Chomping where
  | strip
  | clip
  | keep
  deriving DecidableEq, Repr

structure BlockHeader where
  chomping : Chomping := .clip
  /-- How much deeper than its parent the text is; found out from the text if not given. -/
  increment : Option Nat := none
  deriving DecidableEq, Repr

def chomping? (c : Char) : Option Chomping :=
  if c = '+' then some .keep else if c = '-' then some .strip else none

def increment? (cs : List Char) : Option (Option Nat × List Char) :=
  match cs with
  | '0' :: _ => none
  | c :: rest => if c.isDigit then some (some (c.toNat - 48), rest) else some (none, cs)
  | [] => some (none, cs)

def blockHeader? (cs : List Char) : Option (BlockHeader × List Char) := do
  let (header, rest) ← match cs.head?.bind chomping? with
    | some chomping => do
      let (increment, rest) ← increment? cs.tail
      pure ((⟨chomping, increment⟩ : BlockHeader), rest)
    | none => do
      let (increment, rest) ← increment? cs
      match increment, rest.head?.bind chomping? with
      | some _, some chomping => pure (⟨chomping, increment⟩, rest.tail)
      | _, _ => pure (⟨.clip, increment⟩, rest)
  if endsToken rest then some (header, rest) else none

/-- The blank lines at the front of a text, and how deep the deepest of their blanks is. -/
def leadingBlanks (column deepest : Nat) (done : List Char) : List Char →
    Nat × List Char × Nat × List Char
  | [] => (deepest, done, column, [])
  | c :: cs =>
    if c = ' ' then leadingBlanks (column + 1) (max deepest (column + 1)) done cs
    else if isBreak c then leadingBlanks 0 deepest (done ++ [breakText c]) cs
    else (deepest, done, column, c :: cs)

/-- The blank lines at the front of a text, and the blanks of the next line up to `indent`. -/
def blankLines (indent column : Nat) (done : List Char) : List Char →
    List Char × Nat × List Char
  | [] => (done, column, [])
  | c :: cs =>
    if c = ' ' && column < indent then blankLines indent (column + 1) done cs
    else if isBreak c then blankLines indent 0 (done ++ [breakText c]) cs
    else (done, column, c :: cs)

def blockBreak (folded : Bool) (lineEnd : List Char) (startsPlain nextPlain noBlankLine : Bool) :
    List Char :=
  if folded && lineEnd = ['\n'] && startsPlain && nextPlain then
    if noBlankLine then [' '] else []
  else lineEnd

def startsPlain (cs : List Char) : Bool := !cs.head?.any isBlank

def blockEnd (chomping : Chomping) (lineEnd breaks : List Char) : List Char :=
  (if chomping = .strip then [] else lineEnd) ++ if chomping = .keep then breaks else []

/-- The lines from here on, where `breaks` stand before the next one. Every line takes a character,
so the length of the text bounds their number. -/
def blockLines (folded : Bool) (chomping : Chomping) (indent : Nat) :
    (fuel : Nat) → (lineEnd breaks : List Char) → (column : Nat) → List Char →
      List Char × List Char
  | 0, lineEnd, breaks, _, cs => (blockEnd chomping lineEnd breaks, cs)
  | fuel + 1, lineEnd, breaks, column, cs =>
    if column ≠ indent || cs.isEmpty then (blockEnd chomping lineEnd breaks, cs)
    else
      let line := cs.takeWhile (!isBreak ·)
      let after := cs.drop line.length
      let lineEnd := (after.head?.map breakText).toList
      let (more, column, rest) := blankLines indent 0 [] (after.drop 1)
      if column = indent && !rest.isEmpty then
        let joint := blockBreak folded lineEnd (startsPlain cs) (startsPlain rest) more.isEmpty
        let (text, rest) := blockLines folded chomping indent fuel lineEnd more column rest
        (breaks ++ line ++ joint ++ text, rest)
      else (breaks ++ line ++ blockEnd chomping lineEnd more, rest)

/-- The text of a block scalar behind its mark, inside a parent at `parent`, and what follows it. -/
def blockText (folded : Bool) (parent : Int) (cs : List Char) :
    Reading (List Char × List Char) :=
  match (blockHeader? cs).bind fun h => (afterIgnoredLine? h.2).map fun rest => (h.1, rest) with
  | none => .error .malformed
  | some (header, rest) =>
    let least := (max (parent + 1) 1).toNat
    match header.increment with
    | none =>
      let (deepest, breaks, column, rest) := leadingBlanks 0 0 [] rest
      .ok (blockLines folded header.chomping (max least deepest) (rest.length + 1) [] breaks column
        rest)
    | some n =>
      let indent := least + n - 1
      let (breaks, column, rest) := blankLines indent 0 [] rest
      .ok (blockLines folded header.chomping indent (rest.length + 1) [] breaks column rest)

end BundleWright.Yaml
