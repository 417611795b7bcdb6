/-!
The arguments of a command: options that take a value or are flags, and plain words between them.
-/
namespace BundleWright.Arguments

structure Flag where
  long : String
  short : Option Char := none
  takesValue : Bool := false
  deriving DecidableEq, Repr

structure Given where
  /-- The options in the order in which they were given, flags with no value. -/
  options : List (String × Option String) := []
  words : List String := []
  deriving DecidableEq, Repr

namespace Given

def has (g : Given) (long : String) : Bool := g.options.any (·.1 = long)

def values (g : Given) (long : String) : List String :=
  (g.options.filter (·.1 = long)).filterMap (·.2)

def withOption (g : Given) (long : String) (value : Option String) : Given :=
  { g with options := (long, value) :: g.options }

def withWords (g : Given) (words : List String) : Given := { g with words := words ++ g.words }

end Given

/-- The letters of an argument such as `-abc`, each an option; what follows the letter of an option
with a value is that value, or else the next argument is. -/
def letters? (flags : List Flag) (next : List String) :
    List Char → Option (List (String × Option String) × List String)
  | [] => some ([], next)
  | c :: cs => do
    let f ← flags.find? (·.short = some c)
    if f.takesValue then
      match cs, next with
      | [], [] => none
      | [], v :: rest => some ([(f.long, some v)], rest)
      | cs, next => some ([(f.long, some (String.ofList cs))], next)
    else
      let (more, rest) ← letters? flags next cs
      some ((f.long, none) :: more, rest)

theorem length_letters?_le {flags : List Flag} {next : List String} {cs : List Char}
    {r : List (String × Option String) × List String} (h : letters? flags next cs = some r) :
    r.2.length ≤ next.length := by
  induction cs generalizing r with
  | nil => cases h; simp
  | cons c cs ih =>
    simp only [letters?, Option.bind_eq_bind, Option.bind_eq_some_iff] at h
    obtain ⟨f, _, h⟩ := h
    split at h
    · split at h <;> cases h <;> simp
    · obtain ⟨⟨more, rest⟩, hr, h⟩ := Option.bind_eq_some_iff.1 h
      cases h
      have := ih hr
      simpa using this

/-- The option that an argument such as `--name` or `--name=value` gives, with the arguments after
it. -/
def long? (flags : List Flag) (body : List Char) (next : List String) :
    Option ((String × Option String) × List String) := do
  let name := String.ofList (body.takeWhile (· != '='))
  let f ← flags.find? (·.long = name)
  match f.takesValue, body.dropWhile (· != '='), next with
  | true, _ :: value, next => some ((f.long, some (String.ofList value)), next)
  | true, [], v :: rest => some ((f.long, some v), rest)
  | false, [], next => some ((f.long, none), next)
  | _, _, _ => none

theorem length_long?_le {flags : List Flag} {body : List Char} {next : List String}
    {r : (String × Option String) × List String} (h : long? flags body next = some r) :
    r.2.length ≤ next.length := by
  simp only [long?, Option.bind_eq_bind, Option.bind_eq_some_iff] at h
  obtain ⟨f, _, h⟩ := h
  split at h <;> cases h <;> simp

/-- Reads arguments; without `mixed` the first word ends the options. None when an option is
unknown, lacks its value, or has one it does not take. -/
def read? (flags : List Flag) (mixed : Bool) (args : List String) : Option Given :=
  match args with
  | [] => some {}
  | a :: rest =>
    match a.toList with
    | ['-', '-'] => some { words := rest }
    | '-' :: '-' :: body =>
      match _h : long? flags body rest with
      | none => none
      | some r => (read? flags mixed r.2).map (·.withOption r.1.1 r.1.2)
    | '-' :: c :: cs =>
      match _h : letters? flags rest (c :: cs) with
      | none => none
      | some r =>
        (read? flags mixed r.2).map fun g => r.1.foldr (fun o g => g.withOption o.1 o.2) g
    | _ =>
      if mixed then (read? flags mixed rest).map (·.withWords [a])
      else some { words := a :: rest }
  termination_by args.length
  decreasing_by
    · have := length_long?_le _h
      simp; omega
    · have := length_letters?_le _h
      simp; omega
    · simp

end BundleWright.Arguments
