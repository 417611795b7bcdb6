import BundleWright.AccessModes
import BundleWright.Proofs.Path.Join
import BundleWright.Proofs.Path.Order
/-!
The directories files are put in. Main statements: a joined directory stays inside the bundle
exactly when each of its pieces does, and where a native library goes is told component by
component.
-/
namespace BundleWright

open BundleWright.Path

@[simp] theorem ofString_empty : ofString "" = here := by decide +kernel

@[simp] theorem Path.join_here (p : Path) : p.join here = p := by
  simp [join, here]

@[simp] theorem Path.here_join (p : Path) : here.join p = p := by
  by_cases h : p.root = .none <;> simp [join, here, ext_iff', h]

theorem foldl_join_filter (dirs : List String) (p : Path) :
    ((dirs.filter (· ≠ "")).map ofString).foldl join p = (dirs.map ofString).foldl join p := by
  induction dirs generalizing p with
  | nil => rfl
  | cons d dirs ih =>
    by_cases hd : d = ""
    · simpa [hd] using ih p
    · simpa [hd] using ih (p.join (ofString d))

theorem ofString_joinDirs (dirs : List String) :
    ofString (joinDirs dirs) = (dirs.map ofString).foldl join here := by
  rw [← foldl_join_filter]
  unfold joinDirs
  split
  · next h => rw [h, ofString_empty]; rfl
  · exact ofString_text _

theorem ofString_joinDirs_pair (a b : String) :
    ofString (joinDirs [a, b]) = ofString a / ofString b := by
  simp only [ofString_joinDirs, List.map_cons, List.map_nil, List.foldl_cons, List.foldl_nil,
    here_join]
  rfl

def IsNormalDir (d : String) : Prop := (ofString d).text = d

instance (d : String) : Decidable (IsNormalDir d) := inferInstanceAs (Decidable (_ = _))

theorem isNormalDir_joinDirs {a : String} (ha : a ≠ "") (b : String) :
    IsNormalDir (joinDirs [a, b]) := by
  unfold IsNormalDir joinDirs
  by_cases hb : b = "" <;> simp [ha, hb]

theorem joinDirs_ne_empty {a : String} (ha : a ≠ "") (b : String) : joinDirs [a, b] ≠ "" := by
  unfold joinDirs
  by_cases hb : b = "" <;> simp [ha, hb, text_ne_empty]

theorem isRelativeSubdir_joinDirs {a b : String} :
    isRelativeSubdir (joinDirs [a, b]) = true ↔
      isRelativeSubdir a = true ∧ isRelativeSubdir b = true := by
  simp only [isRelativeSubdir_iff, ofString_joinDirs_pair]
  by_cases hb : (ofString b).root = .none
  · simp only [join_root_of_relative hb, join_parts_of_relative hb, List.mem_append, not_or, hb,
      true_and]
    exact and_assoc.symm
  · simp [div_of_rooted hb, hb]

theorem parts_joinDirs {a b : String} (hb : (ofString b).root = .none) :
    (ofString (joinDirs [a, b])).parts = (ofString a).parts ++ (ofString b).parts := by
  rw [ofString_joinDirs_pair, join_parts_of_relative hb]

theorem head?_parts_iff {d w : String} (hd : IsNormalDir d) (hr : (ofString d).root = .none)
    (hw : IsComponent w) :
    (ofString d).parts.head? = some w ↔ d = w ∨ (w ++ "/").toList <+: d.toList := by
  cases hp : (ofString d).parts with
  | nil =>
    have hdot : d = "." := by
      rw [← hd, text.eq_def, hr, hp]
    simp only [List.head?_nil, reduceCtorEq, false_iff, not_or, hdot]
    refine ⟨?_, fun h => ?_⟩
    · rintro rfl
      exact hw.2.1 rfl
    · have hl := h.length_le
      have hpos := List.length_pos_iff.2 hw.ne_nil
      have hone : ".".toList.length = 1 := rfl
      rw [hone, String.toList_append, List.length_append, show "/".toList.length = 1 from rfl] at hl
      omega
  | cons p ps =>
    have htext : d = String.intercalate "/" (p :: ps) := by
      rw [← hd, text_of_ne_nil (by simp [hp]), hr, hp]
      simp [Root.text]
    have hproper : ∀ q ∈ p :: ps, IsComponent q := fun q hq => (ofString d).proper q (by rwa [hp])
    have hsplit := splitOn_intercalate_slash (List.cons_ne_nil p ps) hproper
    rw [← htext, List.map_cons] at hsplit
    rw [List.head?_cons, Option.some.injEq]
    constructor
    · rintro rfl
      cases ps with
      | nil => exact .inl (by simpa using htext)
      | cons q qs =>
        refine .inr ?_
        rw [htext, String.intercalate_cons_cons]
        simp only [String.toList_append]
        exact List.prefix_append _ _
    · rintro (rfl | ⟨rest, hrest⟩)
      · rw [Text.splitOn_of_not_mem hw.not_mem] at hsplit
        exact (String.toList_inj.1 (List.cons.inj hsplit).1).symm
      · have hcut := Text.splitOn_append_cons hw.not_mem rest
        rw [← hrest] at hsplit
        simp only [String.toList_append, List.append_assoc] at hsplit
        rw [show "/".toList ++ rest = '/' :: rest from rfl, hcut] at hsplit
        exact (String.toList_inj.1 (List.cons.inj hsplit).1).symm

namespace InstallDir

def libraryRoot (t : Target) : String := if t.is64bit then "lib64" else "lib"

def isApart (name : String) (setSystemApart : Bool) : Bool :=
  setSystemApart && systemLibraries.contains name

theorem isRelativeSubdir_libraryRoot (t : Target) : isRelativeSubdir (libraryRoot t) = true := by
  unfold libraryRoot
  split <;> decide +kernel

theorem parts_libraryRoot (t : Target) : (ofString (libraryRoot t)).parts = [libraryRoot t] := by
  unfold libraryRoot
  split <;> decide +kernel

theorem libraryRoot_ne_empty (t : Target) : libraryRoot t ≠ "" := by
  unfold libraryRoot
  split <;> decide

theorem isRelativeSubdir_systemLibrariesDir : isRelativeSubdir systemLibrariesDir = true := by
  decide +kernel

variable {name rel : String} {t : Target} {setSystemApart : Bool}

theorem library_eq :
    library name t rel setSystemApart =
      let own := joinDirs [libraryRoot t, rel]
      let base := if t.native then own else joinDirs [own, t.arch]
      if isApart name setSystemApart then joinDirs [base, systemLibrariesDir] else base := rfl

/-- A library stays inside the bundle if its own subdirectory does, and so does the name of the
architecture where that is a part of the place. -/
theorem isRelativeSubdir_library :
    isRelativeSubdir (library name t rel setSystemApart) = true ↔
      isRelativeSubdir rel = true ∧ (t.native = false → isRelativeSubdir t.arch = true) := by
  have hroot := isRelativeSubdir_libraryRoot t
  have hsystem := isRelativeSubdir_systemLibrariesDir
  rw [library_eq]
  cases isApart name setSystemApart <;> cases t.native <;>
    simp [isRelativeSubdir_joinDirs, hroot, hsystem]

theorem isNormalDir_library : IsNormalDir (library name t rel setSystemApart) := by
  have hown := joinDirs_ne_empty (libraryRoot_ne_empty t) rel
  have harch := joinDirs_ne_empty hown t.arch
  rw [library_eq]
  cases isApart name setSystemApart <;> cases t.native
  · exact isNormalDir_joinDirs hown _
  · exact isNormalDir_joinDirs (libraryRoot_ne_empty t) _
  · exact isNormalDir_joinDirs harch _
  · exact isNormalDir_joinDirs hown _

/-- Where a library goes: by bitness, its own subdirectory, the architecture if it is translated,
and the place of system libraries. -/
theorem parts_library (h : isRelativeSubdir (library name t rel setSystemApart) = true) :
    (ofString (library name t rel setSystemApart)).parts =
      libraryRoot t :: (ofString rel).parts ++
        (if t.native then [] else (ofString t.arch).parts) ++
        (if isApart name setSystemApart then [systemLibrariesDir] else []) := by
  obtain ⟨hrel, harch⟩ := isRelativeSubdir_library.1 h
  have hr := (isRelativeSubdir_iff.1 hrel).1
  have hs := (isRelativeSubdir_iff.1 isRelativeSubdir_systemLibrariesDir).1
  have hsp : (ofString systemLibrariesDir).parts = [systemLibrariesDir] := by decide +kernel
  have hp := parts_libraryRoot t
  rw [library_eq]
  cases hn : t.native with
  | true => cases isApart name setSystemApart <;> simp [parts_joinDirs, hr, hs, hsp, hp]
  | false =>
    have ha := (isRelativeSubdir_iff.1 (harch hn)).1
    cases isApart name setSystemApart <;> simp [parts_joinDirs, hr, hs, hsp, hp, ha]

end InstallDir

end BundleWright
