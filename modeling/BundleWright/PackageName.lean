import BundleWright.Text.Split
/-!
Overriding the name of a package. A rule `from:to` replaces one name, and a percent sign in `from`
stands for any stem, which takes the place of the first percent sign in `to`.
-/
namespace BundleWright.PackageName

/-- What is left of a text between a given beginning and a given end. -/
def stem? (front back name : List Char) : Option (List Char) :=
  if front.isPrefixOf name && back.isSuffixOf name &&
      front.length + back.length ≤ name.length then
    some ((name.drop front.length).take (name.length - front.length - back.length))
  else none

/-- The text with its first percent sign replaced. -/
def fill (stem template : List Char) : List Char :=
  match Text.cut? '%' template with
  | none => template
  | some (front, back) => front ++ stem ++ back

def renamed? (rule name : List Char) : Option (List Char) :=
  (Text.cut? ':' rule).bind fun (pattern, template) =>
    match Text.cut? '%' pattern with
    | none => if pattern = name then some template else none
    | some (front, back) => (stem? front back name).map (fill · template)

def override? (name : String) (rules : List String) : Option String :=
  (rules.findSome? fun r => renamed? r.toList name.toList).map String.ofList

end BundleWright.PackageName
