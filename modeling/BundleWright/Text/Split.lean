/-!
Cutting text at a separator. Main statements: the pieces of `splitOn` hold no separator; `cut?` finds
the first separator.
-/
namespace BundleWright.Text

/-- The pieces between the separators, at least one. -/
def splitOn (sep : Char) : List Char → List (List Char)
  | [] => [[]]
  | c :: cs =>
    if c = sep then [] :: splitOn sep cs
    else match splitOn sep cs with
      | [] => [[c]]
      | w :: ws => (c :: w) :: ws

theorem splitOn_ne_nil (sep : Char) (cs : List Char) : splitOn sep cs ≠ [] := by
  cases cs with
  | nil => simp [splitOn]
  | cons c cs =>
    unfold splitOn
    split
    · simp
    · split <;> simp

theorem not_mem_of_mem_splitOn {sep : Char} {cs w : List Char} (h : w ∈ splitOn sep cs) :
    sep ∉ w := by
  induction cs generalizing w with
  | nil => simp_all [splitOn]
  | cons c cs ih =>
    unfold splitOn at h
    split at h
    · rcases List.mem_cons.1 h with rfl | h
      · simp
      · exact ih h
    · next hc =>
      split at h
      · next hw => exact absurd hw (splitOn_ne_nil sep cs)
      · next v vs hv =>
        rcases List.mem_cons.1 h with rfl | h
        · have : sep ∉ v := ih (by simp [hv])
          simp [this, Ne.symm hc]
        · exact ih (by simp [hv, h])

/-- What stands before and after the first separator. -/
def cut? (sep : Char) : List Char → Option (List Char × List Char)
  | [] => none
  | c :: cs => if c = sep then some ([], cs) else (cut? sep cs).map fun p => (c :: p.1, p.2)

theorem cut?_eq_some_iff {sep : Char} {cs a b : List Char} :
    cut? sep cs = some (a, b) ↔ cs = a ++ sep :: b ∧ sep ∉ a := by
  induction cs generalizing a with
  | nil => simp [cut?]
  | cons c cs ih =>
    unfold cut?
    split
    · next hc =>
      subst hc
      cases a with
      | nil => simp [eq_comm]
      | cons x xs =>
        simp only [Option.some.injEq, Prod.mk.injEq, List.nil_eq, reduceCtorEq, false_and,
          List.cons_append, List.cons.injEq, List.mem_cons, not_or, false_iff]
        rintro ⟨⟨rfl, _⟩, h, _⟩
        exact h rfl
    · next hc =>
      cases a with
      | nil => simp [hc]
      | cons x xs =>
        simp only [Option.map_eq_some_iff, Prod.exists, Prod.mk.injEq, List.cons.injEq]
        constructor
        · rintro ⟨u, v, h, ⟨rfl, rfl⟩, rfl⟩
          have := ih.1 h
          simp_all [Ne.symm hc]
        · rintro ⟨h, hn⟩
          obtain ⟨hx, hr⟩ : c = x ∧ cs = xs ++ sep :: b := by simpa using h
          have hn' : sep ∉ xs := fun hm => hn (List.mem_cons_of_mem _ hm)
          exact ⟨xs, b, ih.2 ⟨hr, hn'⟩, ⟨hx, rfl⟩, rfl⟩

theorem cut?_eq_none_iff {sep : Char} {cs : List Char} : cut? sep cs = none ↔ sep ∉ cs := by
  induction cs with
  | nil => simp [cut?]
  | cons c cs ih =>
    unfold cut?
    split
    · next hc => simp [hc]
    · next hc => simp [ih, Ne.symm hc]

def lines (s : String) : List String := (splitOn '\n' s.toList).map String.ofList

def unifyLineEnds : List Char → List Char
  | '\r' :: '\n' :: cs => '\n' :: unifyLineEnds cs
  | '\r' :: cs => '\n' :: unifyLineEnds cs
  | c :: cs => c :: unifyLineEnds cs
  | [] => []

end BundleWright.Text
