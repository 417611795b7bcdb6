import BundleWright.Yaml.Cursor
/-!
Plain scalars: words without quotes, which go on over blanks and over the line ends before deeper
lines. Inside brackets some marks end a word that count for nothing outside.
-/
namespace BundleWright.Yaml

def isFlowMark (c : Char) : Bool := ",[]\x7b\x7d".toList.contains c

def endsPlain (inFlow : Bool) (cs : List Char) : Bool :=
  endsWord cs ||
    match cs with
    | ':' :: rest => endsWord rest || (inFlow && rest.head?.any isFlowMark)
    | c :: _ => inFlow && (isFlowMark c || c = '?')
    | [] => true

def plainWord (inFlow : Bool) : List Char → List Char
  | [] => []
  | c :: cs =>
    if endsPlain inFlow (c :: cs) then []
    else c :: plainWord inFlow cs

/-- What lies between two words: the text it is read as, whether a line ends in it, and where the
next word begins. -/
structure Gap where
  text : List Char
  broke : Bool
  rest : List Char
  column : Nat

/-- The line ends and blanks before the next word; `none` as soon as a mark between documents is
met, with what is left. -/
def lineEnds (column : Nat) (done : List Char) : List Char →
    List Char × Option (List Char × Nat)
  | [] => ([], some (done, column))
  | c :: cs =>
    if c = ' ' then lineEnds (column + 1) done cs
    else if isBreak c then
      if atDocumentMark cs then (cs, none) else lineEnds 0 (done ++ [breakText c]) cs
    else (c :: cs, some (done, column))

/-- The gap after a word that ends at `column`; no text when nothing may follow it. -/
def plainGap (column : Nat) (cs : List Char) : Gap :=
  let blanks := cs.takeWhile (· = ' ')
  let after := cs.drop blanks.length
  match after with
  | c :: rest =>
    if isBreak c then
      if atDocumentMark rest then ⟨[], true, rest, 0⟩
      else match lineEnds 0 [] rest with
        | (rest, none) => ⟨[], true, rest, 0⟩
        | (rest, some (more, column)) =>
          let text := if breakText c ≠ '\n' then breakText c :: more
            else if more.isEmpty then [' '] else more
          ⟨text, true, rest, column⟩
    else ⟨blanks, false, after, column + blanks.length⟩
  | [] => ⟨blanks, false, [], column + blanks.length⟩

/-- A plain scalar, what follows it, and whether it is followed by a line end. -/
structure PlainText where
  text : List Char
  rest : List Char
  broke : Bool

/-- The words from here on, after a gap; outside brackets only those at `floor` or deeper count.
Every word takes a character, so the length of the text bounds their number. -/
def plainFrom (inFlow : Bool) (floor : Int) : (fuel : Nat) → Gap → PlainText
  | 0, gap => ⟨[], gap.rest, gap.broke⟩
  | fuel + 1, gap =>
    let word := plainWord inFlow gap.rest
    if word.isEmpty then ⟨[], gap.rest, gap.broke⟩
    else
      let done := gap.text ++ word
      let next := plainGap (gap.column + word.length) (gap.rest.drop word.length)
      if next.text.isEmpty || next.rest.head? = some '#' ||
          (!inFlow && (next.column : Int) < floor) then
        ⟨done, next.rest, next.broke⟩
      else
        let more := plainFrom inFlow floor fuel next
        ⟨done ++ more.text, more.rest, more.broke⟩

def plainText (inFlow : Bool) (floor : Int) (column : Nat) (cs : List Char) : PlainText :=
  plainFrom inFlow floor (cs.length + 1) ⟨[], false, cs, column⟩

end BundleWright.Yaml
