import BundleWright.Text.Blank
import BundleWright.Text.Digit
import BundleWright.Text.Split
/-!
Actions that tags of console lines may give: a name, and arguments in parentheses. Arguments are
written as literals: numbers, quoted texts, truth values, and tuples, sets and dictionaries of these.
-/
namespace BundleWright.Text.Markup

/-- What matters about a literal for those that hold it. -/
inductive Literal where
  | real
  | imaginary
  | text (bytes : Bool)
  /-- Another value; one that may change cannot be in a set or a key. -/
  | other (fixed : Bool)
  deriving DecidableEq, Repr

def Literal.isFixed : Literal → Bool
  | .other fixed => fixed
  | _ => true

def skipBlanks (cs : List Char) : List Char :=
  cs.dropWhile fun c => [' ', '\t', '\n', '\r', '\x0c'].contains c

def digitsOf? (isDigit : Char → Bool) (cs : List Char) : Option (List Char × List Char) :=
  let run := cs.takeWhile fun c => isDigit c || c = '_'
  let wellPlaced := (splitOn '_' run).all (!·.isEmpty)
  if wellPlaced then some (run, cs.drop run.length) else none

def isBinaryDigit (c : Char) : Bool := c = '0' || c = '1'
def isOctalDigit (c : Char) : Bool := '0' ≤ c && c ≤ '7'
def isHexadecimal (c : Char) : Bool :=
  c.isDigit || ('a' ≤ c.toLower && c.toLower ≤ 'f')

def dropExponent (cs : List Char) : Bool × List Char :=
  match cs with
  | e :: rest =>
    if e = 'e' || e = 'E' then
      let digits := match rest with
        | s :: more => if s = '+' || s = '-' then more else rest
        | [] => rest
      match digitsOf? Char.isDigit digits with
      | some (_, rest) => (true, rest)
      | none => (false, cs)
    else (false, cs)
  | [] => (false, cs)

def mostDigits : Nat := 4300

/-- A number, and what follows it. A whole number does not begin with a zero, unless it is zero. -/
def number? (cs : List Char) : Option (Literal × List Char) :=
  let based (isDigit : Char → Bool) (rest : List Char) : Option (Literal × List Char) :=
    let rest := if rest.head? = some '_' then rest.drop 1 else rest
    (digitsOf? isDigit rest).map fun p => (.real, p.2)
  match cs with
  | '0' :: 'x' :: rest | '0' :: 'X' :: rest => based isHexadecimal rest
  | '0' :: 'o' :: rest | '0' :: 'O' :: rest => based isOctalDigit rest
  | '0' :: 'b' :: rest | '0' :: 'B' :: rest => based isBinaryDigit rest
  | cs => do
    let (whole, rest) := (digitsOf? Char.isDigit cs).getD ([], cs)
    let (hasPoint, places, rest) := match rest with
      | '.' :: rest =>
        let (places, rest) := (digitsOf? Char.isDigit rest).getD ([], rest)
        (true, places, rest)
      | rest => (false, [], rest)
    if whole.isEmpty && places.isEmpty then none
    let (hasExponent, rest) := dropExponent rest
    match rest with
    | 'j' :: rest | 'J' :: rest => return (.imaginary, rest)
    | rest =>
      let padded := whole.head? = some '0' && whole.any fun c => c ≠ '0' && c ≠ '_'
      let tooLong := mostDigits < (whole.filter (· ≠ '_')).length
      if !hasPoint && !hasExponent && (padded || tooLong) then none
      return (.real, rest)

def escapeDigits (bytes : Bool) (c : Char) : Nat :=
  if c = 'x' then 2 else if bytes then 0 else if c = 'u' then 4 else if c = 'U' then 8 else 0

/-- What follows a quoted text; `closing` are the quotes that end it. -/
def afterQuoted? (bytes raw : Bool) (closing : List Char) : List Char → Option (List Char)
  | [] => none
  | '\\' :: c :: cs =>
    let count := if raw then 0 else escapeDigits bytes c
    if (cs.take count).length = count && (cs.take count).all isHexadecimal &&
        (raw || bytes || c ≠ 'N') then afterQuoted? bytes raw closing cs
    else none
  | c :: cs =>
    if closing.isPrefixOf (c :: cs) then some ((c :: cs).drop closing.length)
    else if (c = '\n' && closing.length = 1) || (bytes && 128 ≤ c.toNat) then none
    else afterQuoted? bytes raw closing cs

/-- The letters that may stand in front of a quoted text, in small letters. -/
def quoteLetters : List (List Char) := [[], ['r'], ['u'], ['b'], ['b', 'r'], ['r', 'b']]

def quoted? (letters : String) (cs : List Char) : Option (Literal × List Char) := do
  let letters := letters.toList.map Char.toLower
  if !quoteLetters.contains letters then none
  let q ← cs.head?
  if q ≠ '\'' && q ≠ '"' then none
  let closing := if [q, q, q].isPrefixOf cs then [q, q, q] else [q]
  let bytes := letters.contains 'b'
  let rest ← afterQuoted? bytes (letters.contains 'r') closing (cs.drop closing.length)
  return (.text bytes, rest)

def wordOf (cs : List Char) : List Char := cs.takeWhile fun c => c.isAlphanum || c = '_'

mutual

/-- One value and what follows it; texts side by side are one text. -/
def value? : (fuel : Nat) → List Char → Option (Literal × List Char)
  | 0, _ => none
  | fuel + 1, cs =>
    let cs := skipBlanks cs
    match cs with
    | '(' :: rest => do
      let (items, comma, rest) ← items? fuel ')' rest
      match items, comma with
      | [item], false => return (item, rest)
      | items, _ => return (.other (items.all Literal.isFixed), rest)
    | '\x7b' :: rest => braces? fuel rest
    | '.' :: '.' :: '.' :: rest => some (.other true, rest)
    | _ =>
      let word := wordOf cs
      let rest := cs.drop word.length
      match quoted? (String.ofList word) rest with
      | some (literal, rest) =>
        match skipBlanks rest with
        | [] => some (literal, [])
        | c :: more =>
          match value? fuel (c :: more) with
          | some (.text bytes, rest) =>
            if literal = .text bytes then some (literal, rest) else none
          | _ => some (literal, c :: more)
      | none =>
        if ["None", "True", "False"].contains (String.ofList word) then some (.other true, rest)
        else if word = "set".toList then
          match skipBlanks rest with
          | '(' :: rest =>
            match skipBlanks rest with
            | ')' :: rest => some (.other false, rest)
            | _ => none
          | _ => none
        else number? cs

/-- A number with its sign, a sum of a real and an imaginary one, or another value. -/
def sum? : (fuel : Nat) → List Char → Option (Literal × List Char)
  | 0, _ => none
  | fuel + 1, cs => do
    let cs := skipBlanks cs
    let isSigned := cs.head? = some '-' || cs.head? = some '+'
    let (left, rest) ← value? fuel (if isSigned then cs.drop 1 else cs)
    let isNumber := left = .real || left = .imaginary
    if isSigned && !isNumber then none
    match skipBlanks rest with
    | c :: more =>
      if c = '+' || c = '-' then
        let (right, rest) ← value? fuel more
        if left = .real && right = .imaginary then return (.imaginary, rest) else none
      return (left, c :: more)
    | [] => return (left, [])

def items? : (fuel : Nat) → (closing : Char) → List Char → Option (List Literal × Bool × List Char)
  | 0, _, _ => none
  | fuel + 1, closing, cs =>
    match skipBlanks cs with
    | [] => none
    | c :: more =>
      if c = closing then some ([], false, more)
      else do
        let (item, rest) ← sum? fuel (c :: more)
        match skipBlanks rest with
        | ',' :: rest => do
          let (items, _, rest) ← items? fuel closing rest
          return (item :: items, true, rest)
        | c :: rest => if c = closing then return ([item], false, rest) else none
        | [] => none

/-- The fields of a dictionary up to its closing brace, whether their keys are fixed. -/
def fields? : (fuel : Nat) → List Char → Option (Bool × List Char)
  | 0, _ => none
  | fuel + 1, cs =>
    match skipBlanks cs with
    | '\x7d' :: rest => some (true, rest)
    | cs => do
      let (key, rest) ← sum? fuel cs
      let .cons ':' rest := skipBlanks rest | none
      let (_, rest) ← sum? fuel rest
      match skipBlanks rest with
      | ',' :: rest => do
        let (fixed, rest) ← fields? fuel rest
        return (fixed && key.isFixed, rest)
      | '\x7d' :: rest => return (key.isFixed, rest)
      | _ => none

def braces? : (fuel : Nat) → List Char → Option (Literal × List Char)
  | 0, _ => none
  | fuel + 1, cs =>
    let asFields := fields? fuel cs
    match asFields with
    | some (true, rest) => some (.other false, rest)
    | some (false, _) => none
    | none => do
      let (items, _, rest) ← items? fuel '\x7d' cs
      if items.all Literal.isFixed then return (.other false, rest) else none

end

def isLiteral (cs : List Char) : Bool :=
  let fuel := 8 * cs.length + 8
  match items? fuel ')' (cs ++ [')']) with
  | some (items, _, rest) => !items.isEmpty && rest.isEmpty
  | none => false

/-- The characters of names; beyond ASCII all that are no blanks. -/
def isNameChar (c : Char) : Bool :=
  c.isAlphanum || c = '_' || c = '.' || (128 ≤ c.toNat && !isBlank c)

/-- Whether a text gives an action: a name alone, or one with literals in parentheses behind it;
without a name literals alone. -/
def isAction (text : List Char) : Bool :=
  let cs := trimBoth isBlank text
  let behind := cs.dropWhile isNameChar
  if behind.isEmpty then true
  else if behind.head? = some '(' && behind.getLast? = some ')' && !behind.contains '\n' then
    isLiteral behind
  else isLiteral cs

end BundleWright.Text.Markup
