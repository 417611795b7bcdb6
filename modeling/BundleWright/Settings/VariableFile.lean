import BundleWright.Text.Blank
import BundleWright.Text.Split
/-!
Files of variables. A line gives a name and, after an equals sign, a text; quotes hold texts that may
go over several lines, and a comment may end a line. A line that breaks these rules is passed over.
Texts refer to variables as `${NAME}`, with what stands for an unknown one as `${NAME:-text}`.
-/
namespace BundleWright.Settings

abbrev Variables := List (String × String)

/-- A variable of a file; one that is only named has no text. -/
abbrev Binding := String × Option String

namespace VariableFile

def isInline (c : Char) : Bool := Text.isBlank c && c ≠ '\n'

def skipInline (cs : List Char) : List Char := cs.dropWhile isInline

def nextLine (cs : List Char) : List Char := (cs.dropWhile (· ≠ '\n')).drop 1

def dropExport (cs : List Char) : List Char :=
  let word := "export".toList
  let rest := cs.drop word.length
  if word.isPrefixOf cs && rest.head?.any isInline then skipInline rest else cs

/-- A name in single quotes or without, and what follows it; a comment has none. -/
def readName? (cs : List Char) : Option (Option String × List Char) :=
  let named (name rest : List Char) : Option (Option String × List Char) :=
    if name.isEmpty then none else some (some (String.ofList name), rest)
  match cs with
  | '#' :: _ => some (none, cs)
  | '\'' :: cs =>
    let name := cs.takeWhile (· ≠ '\'')
    let rest := cs.drop name.length
    if rest.isEmpty then none else named name (rest.drop 1)
  | cs =>
    let name := cs.takeWhile fun c => c ≠ '=' && c ≠ '#' && !Text.isBlank c
    named name (cs.drop name.length)

/-- A text up to its closing quote, and what follows. A quote behind a backslash does not close,
unless no other quote does. -/
def upToQuote? (quote : Char) : List Char → Option (List Char × List Char)
  | [] => none
  | '\\' :: c :: cs =>
    if c = quote then
      match upToQuote? quote cs with
      | some (text, rest) => some ('\\' :: c :: text, rest)
      | none => some (['\\'], cs)
    else (upToQuote? quote (c :: cs)).map fun p => ('\\' :: p.1, p.2)
  | c :: cs =>
    if c = quote then some ([], cs) else (upToQuote? quote cs).map fun p => (c :: p.1, p.2)

/-- The characters that a backslash gives another meaning between double quotes. -/
def escapes : List (Char × Char) :=
  [('\\', '\\'), ('\'', '\''), ('"', '"'), ('a', '\x07'), ('b', '\x08'), ('f', '\x0c'),
    ('n', '\n'), ('r', '\r'), ('t', '\t'), ('v', '\x0b')]

def unescape (known : List (Char × Char)) : List Char → List Char
  | '\\' :: c :: cs =>
    match known.lookup c with
    | some x => x :: unescape known cs
    | none => '\\' :: unescape known (c :: cs)
  | c :: cs => c :: unescape known cs
  | [] => []

/-- A text without the comment at its end, which starts at a hash sign behind a blank. -/
def uncommented : List Char → List Char
  | [] => []
  | c :: cs =>
    if Text.isBlank c && (cs.dropWhile Text.isBlank).head? = some '#' then []
    else c :: uncommented cs

def readText? (cs : List Char) : Option (List Char × List Char) :=
  match cs with
  | '\'' :: cs => (upToQuote? '\'' cs).map fun p => (unescape (escapes.take 2) p.1, p.2)
  | '"' :: cs => (upToQuote? '"' cs).map fun p => (unescape escapes p.1, p.2)
  | cs =>
    let line := cs.takeWhile (· ≠ '\n')
    let text := uncommented line
    some ((text.reverse.dropWhile Text.isBlank).reverse, cs.drop line.length)

/-- What follows a line of which nothing but a comment is left. -/
def lineEnd? (cs : List Char) : Option (List Char) :=
  let cs := skipInline cs
  let cs := if cs.head? = some '#' then cs.dropWhile (· ≠ '\n') else cs
  match cs with
  | [] => some []
  | '\n' :: cs => some cs
  | _ => none

def readBinding (cs : List Char) : Option (String × Option (List Char)) × List Char :=
  let cs := dropExport cs
  match readName? cs with
  | none => (none, nextLine cs)
  | some (name, rest) =>
    let rest := skipInline rest
    let read := match rest with
      | '=' :: cs => (readText? (skipInline cs)).map fun p => (some p.1, p.2)
      | cs => some (none, cs)
    match read with
    | none => (none, nextLine rest)
    | some (text, rest) =>
      match lineEnd? rest with
      | none => (none, nextLine rest)
      | some next => (name.map fun name => (name, text), next)

/-- The variables of a text; each takes a character at least. -/
def readBindings : (fuel : Nat) → List Char → List (String × Option (List Char))
  | 0, _ => []
  | fuel + 1, cs =>
    let cs := cs.dropWhile Text.isBlank
    if cs.isEmpty then []
    else
      let (binding, rest) := readBinding cs
      binding.toList ++ readBindings fuel rest

/-- A reference behind its opening brace: the name, what stands for an unknown variable, and what
follows. -/
def reference? (cs : List Char) : Option (String × List Char × List Char) :=
  let name := cs.takeWhile fun c => c ≠ '\x7d' && c ≠ ':'
  match cs.drop name.length with
  | '\x7d' :: rest => some (String.ofList name, [], rest)
  | ':' :: '-' :: rest =>
    let default := rest.takeWhile (· ≠ '\x7d')
    match rest.drop default.length with
    | '\x7d' :: rest => some (String.ofList name, default, rest)
    | _ => none
  | _ => none

/-- A text with its references replaced; each takes a character at least. -/
def expand (value? : String → Option (Option String)) : (fuel : Nat) → List Char → List Char
  | 0, cs => cs
  | fuel + 1, cs =>
    match cs with
    | [] => []
    | c :: rest =>
      let reference := match c, rest with
        | '$', '\x7b' :: rest => reference? rest
        | _, _ => none
      match reference with
      | none => c :: expand value? fuel rest
      | some (name, default, rest) =>
        let text := match value? name with
          | some text => (text.getD "").toList
          | none => default
        text ++ expand value? fuel rest

def put (b : Binding) : List Binding → List Binding
  | [] => [b]
  | (name, text) :: rest =>
    if name = b.1 then b :: rest else (name, text) :: put b rest

def parse (environment : Variables) (text : String) : List Binding :=
  let cs := Text.unifyLineEnds text.toList
  (readBindings (cs.length + 1) cs).foldl (fun done b =>
    let value? (name : String) : Option (Option String) :=
      (done.lookup name).or ((environment.lookup name).map some)
    let text := b.2.map fun cs => String.ofList (expand value? (cs.length + 1) cs)
    put (b.1, text) done) []

end VariableFile

end BundleWright.Settings
