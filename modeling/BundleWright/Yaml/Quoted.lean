import BundleWright.Json.Reader
import BundleWright.Yaml.Cursor
import BundleWright.Yaml.Fault
/-!
Quoted scalars. The text between the quotes is read into pieces first; then blanks around line ends
vanish, one line end becomes a blank, and several become one less.
-/
namespace BundleWright.Yaml

inductive Piece where
  | code (n : Nat)
  | blank (c : Char)
  | lineEnd (c : Char)
  /-- A line end that is taken back. -/
  | joined
  deriving DecidableEq, Repr

inductive FoldState where
  /-- Blanks that count unless a line end follows. -/
  | inLine (blanks : List Char)
  | afterBreak (first : Char) (more : List Char)
  | afterJoin
  deriving DecidableEq, Repr

def FoldState.text : FoldState → List Nat
  | .inLine blanks => blanks.map Char.toNat
  | .afterBreak first more =>
    let more := more.map Char.toNat
    if first ≠ '\n' then first.toNat :: more
    else if more.isEmpty then [' '.toNat] else more
  | .afterJoin => []

def foldPieces (s : FoldState) : List Piece → List Nat
  | [] => s.text
  | .code n :: ps => s.text ++ n :: foldPieces (.inLine []) ps
  | .joined :: ps => s.text ++ foldPieces .afterJoin ps
  | .blank c :: ps =>
    match s with
    | .inLine blanks => foldPieces (.inLine (blanks ++ [c])) ps
    | s => foldPieces s ps
  | .lineEnd c :: ps =>
    match s with
    | .inLine _ => foldPieces (.afterBreak c []) ps
    | .afterBreak first more => foldPieces (.afterBreak first (more ++ [c])) ps
    | .afterJoin => c.toNat :: foldPieces .afterJoin ps

/-- The piece of a character that no quoting rule touches. -/
def pieceOf (c : Char) : Piece :=
  if isBlank c then .blank c
  else if isBreak c then .lineEnd (breakText c)
  else .code c.toNat

/-- Whether a character ends a line before a mark between documents, which no quotes contain. -/
def meetsMark (c : Char) (cs : List Char) : Bool := isBreak c && atDocumentMark cs

/-- The pieces up to a closing single quote, where two quotes stand for one. -/
def singlePieces : List Char → Option (List Piece × List Char)
  | [] => none
  | '\'' :: '\'' :: cs => (singlePieces cs).map fun p => (.code '\''.toNat :: p.1, p.2)
  | '\'' :: cs => some ([], cs)
  | c :: cs =>
    if meetsMark c cs then none else (singlePieces cs).map fun p => (pieceOf c :: p.1, p.2)

def shortEscape? (c : Char) : Option Nat :=
  [('0', 0), ('a', 7), ('b', 8), ('t', 9), ('\t', 9), ('n', 10), ('v', 11), ('f', 12), ('r', 13),
    ('e', 0x1B), (' ', 0x20), ('"', 0x22), ('\\', 0x5C), ('/', 0x2F), ('N', 0x85), ('_', 0xA0),
    ('L', 0x2028), ('P', 0x2029)].lookup c

def escapeWidth? (c : Char) : Option Nat := [('x', 2), ('u', 4), ('U', 8)].lookup c

def checkedCode (n : Nat) : Reading Nat :=
  if n < 0x110000 then .ok n
  else if n < 0x80000000 then .error (.unfit "chr() arg not in range(0x110000)")
  else .error .codeOverflow

/-- The pieces up to a closing double quote, where a backslash escapes. The digits of an escape are
left out by `waiting`, the number of characters that are already accounted for. -/
def doublePieces (waiting : Nat) : List Char → Reading (List Piece × List Char)
  | [] => .error .malformed
  | c :: cs =>
    match waiting with
    | waiting + 1 => doublePieces waiting cs
    | 0 =>
      if c = '"' then .ok ([], cs)
      else if c = '\\' then
        match cs with
        | [] => .error .malformed
        | e :: rest =>
          match shortEscape? e, escapeWidth? e with
          | some n, _ => (doublePieces 1 cs).map fun p => (.code n :: p.1, p.2)
          | none, some width =>
            match Json.hexNumber? (rest.take width) with
            | some n => do
              if rest.length < width then throw .malformed
              let n ← checkedCode n
              let p ← doublePieces (width + 1) cs
              return (.code n :: p.1, p.2)
            | none => .error .malformed
          | none, none =>
            if isBreak e && !atDocumentMark rest then
              (doublePieces 1 cs).map fun p => (.joined :: p.1, p.2)
            else .error .malformed
      else if meetsMark c cs then .error .malformed
      else (doublePieces 0 cs).map fun p => (pieceOf c :: p.1, p.2)

/-- The text after an opening single quote, by its code points, and what follows it. -/
def singleQuoted (cs : List Char) : Reading (List Nat × List Char) :=
  match singlePieces cs with
  | some (ps, rest) => .ok (foldPieces (.inLine []) ps, rest)
  | none => .error .malformed

/-- The text after an opening double quote, by its code points, and what follows it. -/
def doubleQuoted (cs : List Char) : Reading (List Nat × List Char) :=
  (doublePieces 0 cs).map fun p => (foldPieces (.inLine []) p.1, p.2)

end BundleWright.Yaml
