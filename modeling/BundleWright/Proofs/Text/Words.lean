import BundleWright.Proofs.Path.Text
import BundleWright.Text.Blank
/-!
Lines and words. Main statements: lines that are written one below the other are read back unless
one of them is broken, a line of several fields has the words of its fields, and a path has a blank
exactly when one of its components has.
-/
namespace BundleWright

namespace Text

def words (s : String) : List String :=
  ((s.toList.splitOnP isBlank).filter (· ≠ [])).map String.ofList

def HasBlank (s : String) : Prop := s.toList.any isBlank = true

instance (s : String) : Decidable (HasBlank s) := inferInstanceAs (Decidable (_ = true))

variable {s t w : String}

theorem hasBlank_iff : HasBlank s ↔ ∃ c ∈ s.toList, isBlank c = true := List.any_eq_true

theorem hasBlank_append_iff : HasBlank (s ++ t) ↔ HasBlank s ∨ HasBlank t := by
  rw [HasBlank, String.toList_append, List.any_append, Bool.or_eq_true]
  rfl

theorem not_mem_of_mem_splitOnP {α : Type} {p : α → Bool} {l w : List α} (h : w ∈ l.splitOnP p) :
    ∀ c ∈ w, p c = false := by
  induction l generalizing w with
  | nil => simp_all
  | cons x l ih =>
    rw [List.splitOnP_cons_eq_if_modifyHead] at h
    split at h
    · rcases List.mem_cons.1 h with rfl | h
      · simp
      · exact ih h
    · next hx =>
      cases hl : l.splitOnP p with
      | nil => simp [hl] at h
      | cons v vs =>
        rw [hl, List.modifyHead_cons] at h
        rcases List.mem_cons.1 h with rfl | h
        · exact List.forall_mem_cons.2 ⟨by simpa using hx, ih (by simp [hl])⟩
        · exact ih (by simp [hl, h])

theorem not_hasBlank_of_mem_words (h : w ∈ words s) : ¬HasBlank w := by
  obtain ⟨cs, hcs, rfl⟩ := List.mem_map.1 h
  intro hb
  obtain ⟨c, hc, hb⟩ := hasBlank_iff.1 hb
  rw [String.toList_ofList] at hc
  simp [not_mem_of_mem_splitOnP (List.mem_filter.1 hcs).1 c hc] at hb

theorem words_of_not_hasBlank (h : ¬HasBlank s) (hs : s ≠ "") : words s = [s] := by
  have hb : ∀ c ∈ s.toList, isBlank c = false := fun c hc => by
    simpa using fun hb => h (hasBlank_iff.2 ⟨c, hc, hb⟩)
  rw [words, List.splitOnP_eq_singleton hb]
  simp [hs]

theorem words_append_space (s t : String) : words (s ++ (" " ++ t)) = words s ++ words t := by
  have hl : (s ++ (" " ++ t)).toList = s.toList ++ ' ' :: t.toList := by
    simp only [String.toList_append]
    rfl
  rw [words, hl, List.splitOnP_append_cons _ _ (by decide), List.filter_append, List.map_append]
  rfl

theorem not_mem_of_mem_lines (h : w ∈ lines s) : '\n' ∉ w.toList := by
  obtain ⟨cs, hcs, rfl⟩ := List.mem_map.1 h
  rw [String.toList_ofList]
  exact not_mem_of_mem_splitOn hcs

/-- Lines that end are found again exactly when none of them is broken. -/
theorem lines_intercalate_iff {ls : List String} (hne : ls ≠ []) :
    lines (String.intercalate "\n" ls ++ "\n") = ls ++ [""] ↔ ∀ l ∈ ls, '\n' ∉ l.toList := by
  constructor
  · intro h l hl
    exact not_mem_of_mem_lines (h ▸ List.mem_append_left _ hl)
  · intro h
    have hj : String.intercalate "\n" ls ++ "\n" = String.intercalate "\n" (ls ++ [""]) := by
      rw [String.intercalate_append_of_ne_nil hne (by simp)]
      simp
    have hbroken : ∀ w ∈ (ls ++ [""]).map String.toList, '\n' ∉ w := by
      intro w hw
      obtain ⟨l, hl, rfl⟩ := List.mem_map.1 hw
      rcases List.mem_append.1 hl with hl | hl
      · exact h l hl
      · simp [List.mem_singleton.1 hl]
    rw [hj, lines, String.toList_intercalate]
    have hs := splitOn_intercalate (by simp) hbroken
    rw [show "\n".toList = ['\n'] from rfl, hs, List.map_map]
    simp [Function.comp_def]

theorem exists_mem_splitOn_iff {sep c : Char} (hc : c ≠ sep) {cs : List Char} :
    (∃ w ∈ splitOn sep cs, c ∈ w) ↔ c ∈ cs := by
  induction cs with
  | nil => simp [splitOn]
  | cons x cs ih =>
    rw [List.mem_cons, ← ih, splitOn]
    split
    · next hx => simp [hx, hc]
    · cases hs : splitOn sep cs with
      | nil => exact absurd hs (splitOn_ne_nil sep cs)
      | cons v vs => simp [or_assoc]

end Text

namespace Path

open Text (HasBlank isBlank)

theorem exists_hasBlank_parts_iff {s : String} :
    (∃ p ∈ (ofString s).parts, HasBlank p) ↔ HasBlank s := by
  have hslash {c : Char} (hb : isBlank c = true) : c ≠ '/' := by
    rintro rfl
    simp [isBlank] at hb
  constructor
  · rintro ⟨p, hp, hb⟩
    obtain ⟨w, hw, rfl⟩ := List.mem_map.1 hp
    obtain ⟨c, hc, hb⟩ := Text.hasBlank_iff.1 hb
    rw [String.toList_ofList] at hc
    have hmem := (Text.exists_mem_splitOn_iff (hslash hb)).1 ⟨w, (List.mem_filter.1 hw).1, hc⟩
    exact Text.hasBlank_iff.2 ⟨c, hmem, hb⟩
  · intro hb
    obtain ⟨c, hc, hb⟩ := Text.hasBlank_iff.1 hb
    obtain ⟨w, hw, hcw⟩ := (Text.exists_mem_splitOn_iff (hslash hb)).2 hc
    have hk : keeps w = true := by
      simp only [keeps, Bool.and_eq_true, bne_iff_ne, ne_eq]
      refine ⟨List.ne_nil_of_mem hcw, ?_⟩
      rintro rfl
      obtain rfl := List.mem_singleton.1 hcw
      simp [isBlank] at hb
    refine ⟨String.ofList w, List.mem_map_of_mem (List.mem_filter.2 ⟨hw, hk⟩), ?_⟩
    exact Text.hasBlank_iff.2 ⟨c, by rwa [String.toList_ofList], hb⟩

theorem hasBlank_text_iff {p : Path} : HasBlank p.text ↔ ∃ q ∈ p.parts, HasBlank q := by
  rw [← exists_hasBlank_parts_iff, ofString_text]

end Path

end BundleWright
