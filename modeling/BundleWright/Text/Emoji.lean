import BundleWright.Text.Blank
import BundleWright.Text.Emoji.Table
import BundleWright.Text.Lower
import BundleWright.Text.Split
/-!
Emoji by their names. A name between colons stands for an emoji; behind the name `-text` or `-emoji`
says how it is to look. Names are known in letters of either case.
-/
namespace BundleWright.Text

def inRow? (name : List Char) : List (List Char) → Option (List Char)
  | known :: emoji :: rest => if known = name then some emoji else inRow? name rest
  | _ => none

def emoji? (name : List Char) : Option (List Char) :=
  emojiRows.findSome? fun row => inRow? name (splitOn ' ' row.toList)

/-- The looks that an emoji may be given, with the characters that give them. -/
def emojiLooks : List (List Char × Char) :=
  [("-emoji:".toList, '\uFE0F'), ("-text:".toList, '\uFE0E')]

/-- A name behind its colon, the characters that give it its look, and what follows the colon behind
it. -/
def emojiName? : List Char → Option (List Char × List Char × List Char)
  | [] => none
  | c :: cs =>
    match emojiLooks.find? fun look => look.1.isPrefixOf (c :: cs) with
    | some look => some ([], [look.2], (c :: cs).drop look.1.length)
    | none =>
      if c = ':' then some ([], [], cs)
      else if isBlank c then none
      else (emojiName? cs).map fun p => (c :: p.1, p.2)

theorem length_lt_of_emojiName? {cs name look rest : List Char}
    (h : emojiName? cs = some (name, look, rest)) : rest.length < cs.length := by
  induction cs generalizing name look rest with
  | nil => simp [emojiName?] at h
  | cons c cs ih =>
    unfold emojiName? at h
    split at h
    · next l hl =>
      have hp := List.find?_some hl
      have hm := List.mem_of_find?_eq_some hl
      have : 0 < l.1.length := by
        revert hm
        simp only [emojiLooks, List.mem_cons, List.not_mem_nil, or_false]
        rintro (rfl | rfl) <;> decide
      cases h
      simp only [List.length_drop, List.length_cons]
      omega
    · split at h
      · cases h
        simp
      · split at h
        · cases h
        · obtain ⟨⟨n, l, r⟩, hp, he⟩ := Option.map_eq_some_iff.1 h
          cases he
          have := ih hp
          simp only [List.length_cons]
          omega

/-- A text with the names of emoji replaced; a name that is not known is left with its colons. -/
def withEmoji : List Char → List Char
  | [] => []
  | c :: cs =>
    if c = ':' then
      match _h : emojiName? cs with
      | some (name, look, rest) =>
        match emoji? (name.flatMap lowerChar) with
        | some emoji => emoji ++ look ++ withEmoji rest
        | none => ':' :: cs.take (cs.length - rest.length) ++ withEmoji rest
      | none => ':' :: withEmoji cs
    else c :: withEmoji cs
  termination_by cs => cs.length
  decreasing_by
    all_goals first
      | (have h := length_lt_of_emojiName? _h
         simp only [List.length_cons]
         omega)
      | simp

end BundleWright.Text
