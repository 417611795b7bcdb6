import BundleWright.Text.CellWidth
import BundleWright.Text.Emoji
import BundleWright.Text.Markup.Action
import BundleWright.Text.Style
/-!
Markup of console lines. A tag such as `[bold]` opens a style, `[/bold]` closes the last one of that
style and `[/]` the last one at all; a backslash before a bracket takes away its meaning. What is
shown is the text without the tags, with the names of emoji replaced.
-/
namespace BundleWright.Text.Markup

def opensTag (c : Char) : Bool := c.isLower || c = '#' || c = '/' || c = '@'

def tag? (cs : List Char) : Option (List Char × List Char) :=
  let inside := cs.takeWhile fun c => c != ']' && c != '['
  match inside.head?, cs.dropWhile fun c => c != ']' && c != '[' with
  | some c, ']' :: rest => if opensTag c then some (inside, rest) else none
  | _, _ => none

theorem length_lt_of_tag? {cs inside rest : List Char} (h : tag? cs = some (inside, rest)) :
    rest.length < cs.length := by
  simp only [tag?] at h
  split at h
  · next c tail hc ht =>
    split at h
    · cases h
      have := (List.dropWhile_suffix (l := cs) fun c => c != ']' && c != '[').length_le
      simp only [ht, List.length_cons] at this
      omega
    · cases h
  · cases h

inductive Piece where
  | plain (cs : List Char)
  | tag (inside : List Char)
  deriving DecidableEq, Repr

def plainPiece (cs : List Char) : List Piece := if cs.isEmpty then [] else [.plain cs]

/-- The pieces of a marked text behind some plain characters, given last first. Backslashes before a
tag stand for half as many; an odd one takes away the meaning of the tag. -/
def pieces (before : List Char) (cs : List Char) : List Piece :=
  match cs with
  | [] => plainPiece before.reverse
  | '[' :: cs =>
    match _h : tag? cs with
    | some (inside, rest) => plainPiece before.reverse ++ .tag inside :: pieces [] rest
    | none => pieces ('[' :: before) cs
  | '\\' :: cs =>
    let run := '\\' :: cs.takeWhile (· = '\\')
    match _hd : cs.dropWhile (· = '\\') with
    | '[' :: after =>
      match _h : tag? after with
      | some (inside, rest) =>
        let front := plainPiece before.reverse ++ plainPiece (List.replicate (run.length / 2) '\\')
        let marked : Piece :=
          if run.length % 2 = 0 then .tag inside else .plain ('[' :: inside ++ [']'])
        front ++ marked :: pieces [] rest
      | none => pieces ('[' :: run ++ before) after
    | after => pieces (run ++ before) after
  | c :: cs => pieces (c :: before) cs
  termination_by cs.length
  decreasing_by
    · have h₁ := length_lt_of_tag? _h
      simp only [List.length_cons]
      omega
    · simp
    · have h₁ := length_lt_of_tag? _h
      have h₂ := (List.dropWhile_suffix (l := cs) (· = '\\')).length_le
      rw [_hd] at h₂
      simp only [List.length_cons] at h₂ ⊢
      omega
    · have h₂ := (List.dropWhile_suffix (l := cs) (· = '\\')).length_le
      rw [_hd] at h₂
      simp only [List.length_cons] at h₂ ⊢
      omega
    · have h₂ := (List.dropWhile_suffix (l := cs) (· = '\\')).length_le
      rw [_hd] at h₂
      simp only [List.length_cons]
      omega
    · simp

inductive Fault where
  /-- A tag closes what is not open, or its action is none. -/
  | wrongTag
  | unreadableColor
  deriving DecidableEq, Repr

structure OpenStyle where
  name : String
  /-- What stands behind the equals sign of the tag. -/
  parameters : Option (List Char)

def normalName (name : List Char) : Except Fault String :=
  match Style.normal (String.ofList name) with
  | .ok name => .ok name
  | .error _ => .error .unreadableColor

def OpenStyle.isReadable (s : OpenStyle) : Bool :=
  let parameters := s.parameters.map fun cs => " " ++ String.ofList cs
  s.name.startsWith "@" ||
    match Style.read (s.name ++ parameters.getD "") with
    | .error .unreadableNumber => false
    | _ => true

/-- Whether the action that a style gives is one. -/
def OpenStyle.givesAction (s : OpenStyle) : Bool :=
  !s.name.startsWith "@" || s.parameters.all fun parameters =>
    parameters.isEmpty || isAction parameters

/-- Takes the last style of a name out of the open ones, the last one if the name is empty. -/
def close? (name : String) : List OpenStyle → Option (OpenStyle × List OpenStyle)
  | [] => none
  | s :: rest =>
    if name = "" || s.name = name then some (s, rest)
    else (close? name rest).map fun p => (p.1, s :: p.2)

def tagParts (inside : List Char) : List Char × Option (List Char) :=
  match cut? '=' inside with
  | some (name, parameters) => (name, some parameters)
  | none => (inside, none)

/-- The text of a plain piece, in which a bracket need not have its backslash. -/
def unescaped : List Char → List Char
  | '\\' :: '[' :: cs => '[' :: unescaped cs
  | c :: cs => c :: unescaped cs
  | [] => []

/-- What tags and text come to: the text, and whether all styles can be read. -/
structure Shown where
  text : List Char := []
  readable : Bool := true

/-- The text of pieces where some styles are open, the last one first. -/
def shown (styles : List OpenStyle) : List Piece → Except Fault Shown
  | [] => .ok { readable := styles.all OpenStyle.isReadable }
  | .plain cs :: rest => do
    let more ← shown styles rest
    return { more with text := withEmoji (unescaped cs) ++ more.text }
  | .tag inside :: rest => do
    let (name, parameters) := tagParts inside
    match name with
    | '/' :: name => do
      let name := trimBoth isBlank name
      let name ← if name.isEmpty then pure "" else normalName name
      match close? name styles with
      | none => throw .wrongTag
      | some (style, styles) =>
        if !style.givesAction then throw .wrongTag
        let more ← shown styles rest
        return { more with readable := more.readable && style.isReadable }
    | name => do
      shown (⟨← normalName name, parameters⟩ :: styles) rest

def textOf (cs : List Char) : Except Fault (List Char) := do
  if !cs.contains '[' then return withEmoji cs
  let s ← shown [] (pieces [] cs)
  if s.readable then return s.text else throw .unreadableColor

def isDropped (c : Char) : Bool := [7, 8, 11, 12, 13].contains c.toNat

def tabWidth : Nat := 8

def expandTabs (column : Nat) : List Char → List Char
  | [] => []
  | '\t' :: rest =>
    let width := tabWidth - column % tabWidth
    List.replicate width ' ' ++ expandTabs (column + width) rest
  | '\n' :: rest => '\n' :: expandTabs 0 rest
  | c :: rest => c :: expandTabs (column + cellWidth c) rest

def render (s : String) : Except Fault String := do
  let cs ← textOf s.toList
  return String.ofList (expandTabs 0 (cs.filter (!isDropped ·)))

end BundleWright.Text.Markup
