import BundleWright.Proofs.Normalised
import Mathlib.Data.List.Nodup
/-!
The normal form of found files. Main statement: what is handed on is determined by the first file of
each built file, however the others are repeated and in whichever order they were found.
-/
namespace BundleWright

namespace PackagedFile

variable {files others : List PackagedFile} {met : List Path} {f : PackagedFile} {p : Path}

def first? (files : List PackagedFile) (p : Path) : Option PackagedFile :=
  files.find? (·.builtFile = p)

theorem first?_cons (f : PackagedFile) :
    first? (f :: files) p = if f.builtFile = p then some f else first? files p := by
  simp only [first?, List.find?_cons]
  by_cases h : f.builtFile = p <;> simp [h]

theorem mem_iff_first? (h : (files.map (·.builtFile)).Nodup) :
    f ∈ files ↔ first? files f.builtFile = some f := by
  refine ⟨fun hf => ?_, List.mem_of_find?_eq_some⟩
  induction files with
  | nil => simp at hf
  | cons g files ih =>
    obtain ⟨hg, hn⟩ := List.nodup_cons.1 h
    rw [first?_cons]
    rcases List.mem_cons.1 hf with rfl | hf
    · exact if_pos rfl
    · rw [if_neg, ih hn hf]
      intro he
      exact hg (List.mem_map.2 ⟨f, hf, he.symm⟩)

theorem first?_dropRepeated :
    first? (dropRepeated files met) p = if p ∈ met then none else first? files p := by
  induction files generalizing met with
  | nil => simp [dropRepeated, first?]
  | cons f files ih =>
    unfold dropRepeated
    rw [first?_cons]
    split
    · next h =>
      rw [List.contains_iff_mem] at h
      rw [ih]
      split
      · rfl
      · next hp =>
        rw [if_neg]
        rintro rfl
        exact hp h
    · next h =>
      rw [List.contains_iff_mem] at h
      rw [first?_cons, ih]
      by_cases he : f.builtFile = p
      · rw [if_pos he, if_pos he, if_neg (he ▸ h)]
      · simp [he, Ne.symm he]

/-- Files with one built file keep their order when they are sorted. -/
theorem filter_sorted (files : List PackagedFile) (p : Path) :
    (sorted files).filter (·.builtFile = p) = files.filter (·.builtFile = p) := by
  have hsame : (files.filter (·.builtFile = p)).Pairwise fun f g =>
      decide (f.builtFile.text ≤ g.builtFile.text) = true := by
    refine List.pairwise_of_forall_mem_list fun f hf g hg => ?_
    have hfp : f.builtFile = p := by simpa using (List.mem_filter.1 hf).2
    have hgp : g.builtFile = p := by simpa using (List.mem_filter.1 hg).2
    rw [hfp, hgp]
    exact decide_eq_true (String.le_refl _)
  have hsub := List.sublist_mergeSort builtFile_le_trans builtFile_le_total hsame List.filter_sublist
  have hfilter := hsub.filter (·.builtFile = p)
  rw [List.filter_filter] at hfilter
  simp only [Bool.and_self] at hfilter
  exact (hfilter.eq_of_length ((List.mergeSort_perm _ _).filter _).length_eq.symm).symm

theorem first?_sorted : first? (sorted files) p = first? files p := by
  rw [first?, first?, ← List.head?_filter, ← List.head?_filter, filter_sorted]

theorem nodup_of_pairwise_lt (h : (files.map (·.builtFile.text)).Pairwise (· < ·)) :
    (files.map (·.builtFile)).Nodup := by
  have ht : files.map (·.builtFile.text) = (files.map (·.builtFile)).map Path.text := by simp
  rw [ht] at h
  exact List.Nodup.of_map _ (Text.nodup_of_pairwise_lt h)

/-- Files in strict order are determined by which of them is the first of each built file. -/
theorem eq_of_first?_eq (hf : (files.map (·.builtFile.text)).Pairwise (· < ·))
    (ho : (others.map (·.builtFile.text)).Pairwise (· < ·))
    (h : ∀ p, first? files p = first? others p) : files = others := by
  have hfn := nodup_of_pairwise_lt hf
  have hon := nodup_of_pairwise_lt ho
  have hp : files.Perm others := by
    refine (List.perm_ext_iff_of_nodup (.of_map _ hfn) (.of_map _ hon)).2 fun g => ?_
    rw [mem_iff_first? hfn, mem_iff_first? hon, h]
  rw [List.pairwise_map] at hf ho
  exact hp.eq_of_pairwise (fun a b _ _ hab hba => absurd hba (String.lt_asymm hab)) hf ho

theorem dropRepeated_sorted (files : List PackagedFile) :
    dropRepeated (sorted files) = sorted (dropRepeated files) := by
  have hdrop : ((dropRepeated (sorted files)).map (·.builtFile.text)).Pairwise (· < ·) :=
    pairwise_lt_builtFiles ((pairwise_sorted files).sublist (dropRepeated_sublist _ _))
      (nodup_builtFiles_dropRepeated _ _)
  have hsort : ((sorted (dropRepeated files)).map (·.builtFile.text)).Pairwise (· < ·) :=
    pairwise_lt_builtFiles (pairwise_sorted _)
      (nodup_builtFiles_sorted (nodup_builtFiles_dropRepeated _ _))
  refine eq_of_first?_eq hdrop hsort fun p => ?_
  rw [first?_dropRepeated, first?_sorted, first?_sorted, first?_dropRepeated]

theorem dropRepeated_of_nodup (h : (files.map (·.builtFile)).Nodup)
    (hm : ∀ f ∈ files, f.builtFile ∉ met) : dropRepeated files met = files := by
  induction files generalizing met with
  | nil => rfl
  | cons f files ih =>
    obtain ⟨hf, hn⟩ := List.nodup_cons.1 h
    unfold dropRepeated
    rw [if_neg (by simpa using hm f List.mem_cons_self), ih hn]
    intro g hg hmem
    rcases List.mem_cons.1 hmem with he | hmem
    · exact hf (List.mem_map.2 ⟨g, hg, he⟩)
    · exact hm g (List.mem_cons_of_mem f hg) hmem

theorem dropRepeated_idem (files : List PackagedFile) :
    dropRepeated (dropRepeated files) = dropRepeated files :=
  dropRepeated_of_nodup (nodup_builtFiles_dropRepeated files []) (by simp)

theorem sorted_idem (files : List PackagedFile) : sorted (sorted files) = sorted files :=
  List.mergeSort_of_pairwise (pairwise_sorted files)

theorem first?_namespaced {bundle : String} : first? (namespaced bundle files) p =
    (first? files p).map fun f => f.withModuleName (bundle ++ "." ++ f.moduleName) := by
  rw [first?, namespaced, List.find?_map]
  rfl

theorem namespaced_injective (bundle : String) :
    Function.Injective fun f : PackagedFile => f.withModuleName (bundle ++ "." ++ f.moduleName) := by
  rintro ⟨_, _, _, _, _, _, _, _⟩ ⟨_, _, _, _, _, _, _, _⟩ h
  simpa [withModuleName] using h

end PackagedFile

namespace Collection

open PackagedFile

variable {files others : List PackagedFile} {bundle : String} {p : Path}

theorem first?_normalised : first? (normalised bundle files) p =
    (first? files p).map fun f => f.withModuleName (bundle ++ "." ++ f.moduleName) := by
  rw [normalised, first?_namespaced, first?_sorted, first?_dropRepeated]
  rfl

theorem normalised_eq_iff :
    normalised bundle files = normalised bundle others ↔ ∀ p, first? files p = first? others p := by
  constructor
  · intro h p
    refine Option.map_injective (namespaced_injective bundle) ?_
    rw [← first?_normalised, h, first?_normalised]
  · intro h
    refine eq_of_first?_eq (pairwise_normalised _ _) (pairwise_normalised _ _) fun p => ?_
    rw [first?_normalised, first?_normalised, h]

/-- Found files are handed on in strict order, the first one of each built file under the name of
the bundle; so two lists of found files are handed on alike exactly when they have the same first
files. -/
theorem normal_form_unique (bundle : String) (files : List PackagedFile) :
    ((normalised bundle files).map (·.builtFile.text)).Pairwise (· < ·) ∧
      (∀ p, ((normalised bundle files).map (·.builtFile)).count p =
        if p ∈ files.map (·.builtFile) then 1 else 0) ∧
      (∀ p, first? (normalised bundle files) p =
        (first? files p).map fun f => { f with moduleName := bundle ++ "." ++ f.moduleName }) ∧
      dropRepeated (sorted files) = sorted (dropRepeated files) ∧
      dropRepeated (dropRepeated files) = dropRepeated files ∧
      sorted (sorted files) = sorted files ∧
      ∀ others, normalised bundle files = normalised bundle others ↔
        ∀ p, first? files p = first? others p := by
  refine ⟨pairwise_normalised _ _, fun p => ?_, fun _ => first?_normalised, dropRepeated_sorted _,
    dropRepeated_idem _, sorted_idem _, fun _ => normalised_eq_iff⟩
  rw [(nodup_builtFiles_normalised bundle files).count]
  simp only [mem_builtFiles_normalised]

end Collection

end BundleWright
