import BundleWright.Proofs.Path.Text
/-!
Joining written paths. Main statement: paths are joined as their texts are, where a rooted text
stands for itself and two others have a slash between them.
-/
namespace BundleWright.Path

theorem div_of_rooted {a b : Path} (h : b.root ≠ .none) : (a / b : Path) = b := by
  simp [HDiv.hDiv, join, h]

def slashes (cs : List Char) : List Char := cs.takeWhile (· = '/')

@[simp] theorem slashes_nil : slashes [] = [] := rfl

theorem slashes_cons (c : Char) (cs : List Char) :
    slashes (c :: cs) = if c = '/' then c :: slashes cs else [] := by
  simp [slashes, List.takeWhile_cons]

theorem slashes_eq_nil_iff {cs : List Char} : slashes cs = [] ↔ ∀ rest, cs ≠ '/' :: rest := by
  cases cs with
  | nil => simp
  | cons c cs => simp [slashes_cons]

theorem Root.ofChars_eq (cs : List Char) :
    ofChars cs = match (slashes cs).length with
      | 0 => .none
      | 2 => .double
      | _ => .single := by
  unfold ofChars
  split
  · simp [slashes_cons]
  · next rest h =>
    have hrest : slashes rest = [] := slashes_eq_nil_iff.2 fun tail ht => h tail (by rw [ht])
    simp [slashes_cons, hrest]
  · next rest _ h =>
    have hrest : slashes rest = [] := slashes_eq_nil_iff.2 fun tail ht => h tail (by rw [ht])
    simp [slashes_cons, hrest]
  · next h => simp [slashes_eq_nil_iff.2 h]

theorem root_ofString_eq_none_iff {s : String} :
    (ofString s).root = .none ↔ slashes s.toList = [] := by
  rw [ofString, Root.ofChars_eq, ← List.length_eq_zero_iff]
  split <;> simp_all

theorem root_ofString_ne_none_iff {s : String} :
    (ofString s).root ≠ .none ↔ "/".toList <+: s.toList := by
  rw [ne_eq, root_ofString_eq_none_iff, slashes_eq_nil_iff]
  simp [List.IsPrefix, eq_comm]

/-- More text behind leaves the slashes in front as they are, unless slashes meet. -/
theorem slashes_append {cs ds : List Char} (hne : cs ≠ [])
    (h : cs.getLast? = some '/' → slashes ds = []) : slashes (cs ++ ds) = slashes cs := by
  induction cs with
  | nil => exact absurd rfl hne
  | cons c cs ih =>
    rw [List.cons_append, slashes_cons, slashes_cons]
    split
    · next hc =>
      cases cs with
      | nil => rw [List.nil_append, h (by simp [hc]), slashes_nil]
      | cons d rest => rw [ih (by simp) fun hl => h (by simpa using hl)]
    · rfl

/-- A text seen from another one: a rooted one stands for itself, and otherwise a slash comes between
the two unless there is one, or nothing to part. -/
def joinedText (a b : String) : String :=
  if "/".toList <+: b.toList then b
  else if a = "" ∨ "/".toList <:+ a.toList then a ++ b
  else a ++ "/" ++ b

/-- Texts are joined as the paths they stand for. -/
theorem ofString_joinedText (a b : String) :
    ofString (joinedText a b) = ofString a / ofString b := by
  unfold joinedText
  split
  · next hb => rw [div_of_rooted (root_ofString_ne_none_iff.2 hb)]
  · next hb =>
    have hroot : (ofString b).root = .none :=
      Decidable.byContradiction fun h => hb (root_ofString_ne_none_iff.1 h)
    have hslashes : slashes b.toList = [] := root_ofString_eq_none_iff.1 hroot
    rw [ext_iff', join_root_of_relative hroot, join_parts_of_relative hroot]
    split
    · next ha =>
      rcases ha with rfl | ⟨cs, hcs⟩
      · rw [String.empty_append]
        exact ⟨hroot, rfl⟩
      · have hfront : slashes (a.toList ++ b.toList) = slashes a.toList :=
          slashes_append (by simp [← hcs]) fun _ => hslashes
        have hwhole : a.toList ++ b.toList = cs ++ '/' :: b.toList := by simp [← hcs]
        have hparts : components a.toList = components cs := by
          rw [← hcs, show "/".toList = '/' :: [] from rfl, components_append_slash]
          exact List.append_nil _
        simp only [ofString, String.toList_append, Root.ofChars_eq, hfront, true_and]
        rw [hwhole, components_append_slash, hparts]
    · next ha =>
      rw [not_or] at ha
      have hfront : slashes (a.toList ++ '/' :: b.toList) = slashes a.toList := by
        refine slashes_append (by simpa using ha.1) fun hl => absurd ?_ ha.2
        obtain ⟨cs, hcs⟩ := List.getLast?_eq_some_iff.1 hl
        exact ⟨cs, hcs.symm⟩
      have htext : (a ++ "/" ++ b).toList = a.toList ++ '/' :: b.toList := by simp
      simp only [ofString, htext, Root.ofChars_eq, hfront, components_append_slash, and_self]

end BundleWright.Path
