import BundleWright.Collection
import BundleWright.Proofs.Path.Text
import BundleWright.Proofs.Text.Order
/-!
The form in which found files are handed on. Main statements: it keeps one file for each built file,
and the built files stand in strict order.
-/
namespace BundleWright

namespace PackagedFile

variable {files : List PackagedFile} {met : List Path} {f : PackagedFile} {p : Path}

theorem dropRepeated_sublist (files : List PackagedFile) (met : List Path) :
    (dropRepeated files met).Sublist files := by
  induction files generalizing met with
  | nil => simp [dropRepeated]
  | cons f rest ih =>
    unfold dropRepeated
    split
    · exact (ih met).cons f
    · exact (ih _).cons_cons f

theorem mem_builtFiles_dropRepeated :
    p ∈ (dropRepeated files met).map (·.builtFile) ↔ p ∈ files.map (·.builtFile) ∧ p ∉ met := by
  induction files generalizing met with
  | nil => simp [dropRepeated]
  | cons f rest ih =>
    unfold dropRepeated
    split
    · next h =>
      rw [List.contains_iff_mem] at h
      rw [ih, List.map_cons, List.mem_cons]
      constructor
      · exact fun hp => ⟨.inr hp.1, hp.2⟩
      · rintro ⟨rfl | hp, hn⟩
        · exact absurd h hn
        · exact ⟨hp, hn⟩
    · next h =>
      rw [List.contains_iff_mem] at h
      rw [List.map_cons, List.mem_cons, ih, List.map_cons, List.mem_cons, List.mem_cons, not_or]
      constructor
      · rintro (rfl | ⟨hp, _, hn⟩)
        · exact ⟨.inl rfl, h⟩
        · exact ⟨.inr hp, hn⟩
      · rintro ⟨hp, hn⟩
        by_cases he : p = f.builtFile
        · exact .inl he
        · exact .inr ⟨hp.resolve_left he, he, hn⟩

theorem nodup_builtFiles_dropRepeated (files : List PackagedFile) (met : List Path) :
    ((dropRepeated files met).map (·.builtFile)).Nodup := by
  induction files generalizing met with
  | nil => simp [dropRepeated]
  | cons f rest ih =>
    unfold dropRepeated
    split
    · exact ih met
    · rw [List.map_cons, List.nodup_cons]
      exact ⟨fun hm => (mem_builtFiles_dropRepeated.1 hm).2 (by simp), ih _⟩

theorem builtFile_le_trans (a b c : PackagedFile)
    (hab : decide (a.builtFile.text ≤ b.builtFile.text) = true)
    (hbc : decide (b.builtFile.text ≤ c.builtFile.text) = true) :
    decide (a.builtFile.text ≤ c.builtFile.text) = true :=
  decide_eq_true (String.le_trans (of_decide_eq_true hab) (of_decide_eq_true hbc))

theorem builtFile_le_total (a b : PackagedFile) :
    (decide (a.builtFile.text ≤ b.builtFile.text) ||
      decide (b.builtFile.text ≤ a.builtFile.text)) = true := by
  simpa using String.le_total a.builtFile.text b.builtFile.text

theorem pairwise_sorted (files : List PackagedFile) :
    (sorted files).Pairwise fun a b => decide (a.builtFile.text ≤ b.builtFile.text) = true :=
  List.pairwise_mergeSort builtFile_le_trans builtFile_le_total files

theorem nodup_builtFiles_sorted (h : (files.map (·.builtFile)).Nodup) :
    ((sorted files).map (·.builtFile)).Nodup :=
  ((List.mergeSort_perm _ _).map _).nodup_iff.2 h

theorem pairwise_lt_builtFiles
    (h : files.Pairwise fun a b => decide (a.builtFile.text ≤ b.builtFile.text) = true)
    (hn : (files.map (·.builtFile)).Nodup) :
    (files.map (·.builtFile.text)).Pairwise (· < ·) := by
  refine Text.pairwise_lt_of_nodup (List.pairwise_map.2 (h.imp of_decide_eq_true)) ?_
  have ht : files.map (·.builtFile.text) = (files.map (·.builtFile)).map Path.text := by simp
  rw [ht]
  exact List.Pairwise.map _ (fun a b hne he => hne (Path.text_injective he)) hn

end PackagedFile

namespace Collection

open PackagedFile

variable {files : List PackagedFile} {bundle : String} {f : PackagedFile}

theorem normalised_perm (bundle : String) (files : List PackagedFile) :
    (normalised bundle files).Perm (namespaced bundle (dropRepeated files)) :=
  (List.mergeSort_perm _ _).map _

theorem mem_normalised_iff : f ∈ normalised bundle files ↔
    ∃ kept ∈ dropRepeated files, kept.withModuleName (bundle ++ "." ++ kept.moduleName) = f := by
  rw [(normalised_perm bundle files).mem_iff, namespaced, List.mem_map]

/-- A file that is handed on was found; only the name of its module has changed. -/
theorem exists_of_mem_normalised (h : f ∈ normalised bundle files) :
    ∃ found ∈ files, f = found.withModuleName (bundle ++ "." ++ found.moduleName) := by
  obtain ⟨found, hm, rfl⟩ := mem_normalised_iff.1 h
  exact ⟨found, (dropRepeated_sublist files []).subset hm, rfl⟩

theorem map_builtFile_namespaced (bundle : String) (files : List PackagedFile) :
    (namespaced bundle files).map (·.builtFile) = files.map (·.builtFile) := by
  simp [namespaced, withModuleName, Function.comp_def]

theorem mem_builtFiles_normalised {p : Path} :
    p ∈ (normalised bundle files).map (·.builtFile) ↔ p ∈ files.map (·.builtFile) := by
  rw [((normalised_perm bundle files).map _).mem_iff, map_builtFile_namespaced,
    mem_builtFiles_dropRepeated]
  simp

theorem nodup_builtFiles_normalised (bundle : String) (files : List PackagedFile) :
    ((normalised bundle files).map (·.builtFile)).Nodup := by
  rw [((normalised_perm bundle files).map _).nodup_iff, map_builtFile_namespaced]
  exact nodup_builtFiles_dropRepeated files []

theorem pairwise_normalised (bundle : String) (files : List PackagedFile) :
    ((normalised bundle files).map (·.builtFile.text)).Pairwise (· < ·) := by
  have hsame : (normalised bundle files).map (·.builtFile.text) =
      (sorted (dropRepeated files)).map (·.builtFile.text) := by
    simp [normalised, namespaced, withModuleName, Function.comp_def]
  rw [hsame]
  exact pairwise_lt_builtFiles (pairwise_sorted _)
    (nodup_builtFiles_sorted (nodup_builtFiles_dropRepeated files []))

end Collection

end BundleWright
