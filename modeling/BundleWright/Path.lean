import BundleWright.Text.Split
/-!
File paths in normal form: a root of zero, one or two slashes, then components. Empty and `.`
components vanish when a path is read, `..` stays, so equality of paths is equality of texts.
-/
namespace BundleWright

/-- How many slashes a path begins with; three or more count as one. -/
inductive Path.Root where
  | none
  | single
  | double
  deriving DecidableEq, Repr

/-- What may stand between two slashes of a normal path. -/
def Path.IsComponent (p : String) : Prop :=
  p.toList ≠ [] ∧ p.toList ≠ ['.'] ∧ '/' ∉ p.toList

instance (p : String) : Decidable (Path.IsComponent p) :=
  inferInstanceAs (Decidable (_ ∧ _ ∧ _))

structure Path where
  root : Path.Root
  parts : List String
  proper : ∀ p ∈ parts, Path.IsComponent p
  deriving DecidableEq, Repr

namespace Path

theorem ext_iff' {a b : Path} : a = b ↔ a.root = b.root ∧ a.parts = b.parts := by
  cases a; cases b; simp

def Root.ofChars : List Char → Root
  | '/' :: '/' :: '/' :: _ => .single
  | '/' :: '/' :: _ => .double
  | '/' :: _ => .single
  | _ => .none

def Root.text : Root → String
  | .none => ""
  | .single => "/"
  | .double => "//"

def keeps (w : List Char) : Bool := w != [] && w != ['.']

def components (cs : List Char) : List String :=
  ((Text.splitOn '/' cs).filter keeps).map String.ofList

theorem isComponent_of_mem_components {cs : List Char} {p : String} (h : p ∈ components cs) :
    IsComponent p := by
  obtain ⟨w, hw, rfl⟩ := List.mem_map.1 h
  obtain ⟨hm, hk⟩ := List.mem_filter.1 hw
  simp only [keeps, Bool.and_eq_true, bne_iff_ne, ne_eq] at hk
  simpa [IsComponent] using ⟨hk.1, hk.2, Text.not_mem_of_mem_splitOn hm⟩

def ofString (s : String) : Path where
  root := Root.ofChars s.toList
  parts := components s.toList
  proper := fun _ h => isComponent_of_mem_components h

def here : Path := ⟨.none, [], by simp⟩

instance : Inhabited Path := ⟨here⟩

/-- The written form; the path without root and components is a single dot. -/
def text (p : Path) : String :=
  match p.root, p.parts with
  | .none, [] => "."
  | r, ps => r.text ++ String.intercalate "/" ps

instance : ToString Path := ⟨text⟩

/-- `a / b` is `b` seen from `a`; a rooted `b` stands for itself. -/
def join (a b : Path) : Path :=
  if b.root = .none then
    ⟨a.root, a.parts ++ b.parts, fun p h =>
      (List.mem_append.1 h).elim (a.proper p) (b.proper p)⟩
  else b

instance : HDiv Path Path Path := ⟨join⟩
instance : HDiv Path String Path := ⟨fun a s => a.join (ofString s)⟩

def isAbsolute (p : Path) : Bool := p.root != .none

def name (p : Path) : String := p.parts.getLast?.getD ""

/-- The path without its last component; a path without components is its own parent. -/
def parent (p : Path) : Path :=
  ⟨p.root, p.parts.dropLast, fun q h => p.proper q ((List.dropLast_sublist _).subset h)⟩

/-- The path with its last component replaced; refused when there is none to replace. -/
def withName? (p : Path) (name : String) : Option Path :=
  if p.parts = [] then none
  else if h : IsComponent name then
    some ⟨p.root, p.parts.dropLast ++ [name], fun q hq => by
      rcases List.mem_append.1 hq with hq | hq
      · exact p.proper q ((List.dropLast_sublist _).subset hq)
      · exact (List.mem_singleton.1 hq) ▸ h⟩
  else none

/-- The paths met going up from `p`, `p` itself first, down to the one without components. -/
def lineage (p : Path) : List Path :=
  p :: if p.parts = [] then [] else lineage p.parent
  termination_by p.parts.length
  decreasing_by
    have := List.length_pos_iff.2 ‹_›
    simp [parent]
    omega

/-- What follows the last dot of the name, dot included, unless the dot begins or ends the name. -/
def extension (p : Path) : String :=
  let cs := p.name.toList
  let tail := (cs.reverse.takeWhile (· != '.')).reverse
  if tail = [] || cs.length ≤ tail.length + 1 then "" else String.ofList ('.' :: tail)

@[simp] theorem join_parts_of_relative {a b : Path} (h : b.root = .none) :
    (a / b : Path).parts = a.parts ++ b.parts := by
  simp [HDiv.hDiv, join, h]

@[simp] theorem join_root_of_relative {a b : Path} (h : b.root = .none) :
    (a / b : Path).root = a.root := by
  simp [HDiv.hDiv, join, h]

@[simp] theorem parent_parts (p : Path) : p.parent.parts = p.parts.dropLast := rfl

@[simp] theorem parent_root (p : Path) : p.parent.root = p.root := rfl

/-- Whether a written path stays below the directory it is joined to. -/
def isRelativeSubdir (s : String) : Bool :=
  let p := ofString s
  !p.isAbsolute && !p.parts.contains ".."

/-- The character that ends names in the system, so no name can hold it. -/
def null : Char := Char.ofNat 0

def hasNull (p : Path) : Bool := p.parts.any (·.toList.contains null)

/-- Whether a name is a single path component other than the two dot names. -/
def isPlainName (s : String) : Bool :=
  s != "" && !s.toList.contains '/' && s != "." && s != ".."

end Path

end BundleWright
