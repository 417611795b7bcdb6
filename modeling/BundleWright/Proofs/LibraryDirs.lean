import BundleWright.Proofs.InstallDir
import BundleWright.Settings
/-!
The directories of one library built for several targets. Main statement: two targets share one
exactly when they have the same bitness and are both native, or translated from one architecture.
-/
namespace BundleWright

open BundleWright.Path

def Target.SharesDir (t u : Target) : Prop :=
  t.is64bit = u.is64bit ∧ t.native = u.native ∧ (t.native = false → t.arch = u.arch)

instance (t u : Target) : Decidable (t.SharesDir u) :=
  inferInstanceAs (Decidable (_ ∧ _ ∧ (_ → _)))

def Target.NamesDir (t : Target) : Prop := t.native = false → isPlainName t.arch = true

instance (t : Target) : Decidable t.NamesDir := inferInstanceAs (Decidable (_ → _))

theorem Path.parts_of_isPlainName {s : String} (h : isPlainName s = true) :
    (ofString s).parts = [s] := by
  rw [ofString_component (isComponent_of_isPlainName h)]

theorem Path.isRelativeSubdir_of_isPlainName {s : String} (h : isPlainName s = true) :
    isRelativeSubdir s = true := by
  refine isRelativeSubdir_iff.2 ⟨?_, ?_⟩
  · rw [ofString_component (isComponent_of_isPlainName h)]
  · rw [parts_of_isPlainName h, List.mem_singleton]
    rintro rfl
    simp [isPlainName] at h

namespace InstallDir

variable {name rel : String} {t u : Target} {setSystemApart : Bool}

theorem libraryRoot_eq_iff : libraryRoot t = libraryRoot u ↔ t.is64bit = u.is64bit := by
  unfold libraryRoot
  cases t.is64bit <;> cases u.is64bit <;> decide

section NamesDir

variable (hrel : isRelativeSubdir rel = true) (ht : t.NamesDir) (hu : u.NamesDir)
include hrel ht

theorem isRelativeSubdir_library_of_namesDir :
    isRelativeSubdir (library name t rel setSystemApart) = true :=
  isRelativeSubdir_library.2 ⟨hrel, fun hn => isRelativeSubdir_of_isPlainName (ht hn)⟩

theorem root_library_of_namesDir :
    (ofString (library name t rel setSystemApart)).root = .none :=
  (isRelativeSubdir_iff.1 (isRelativeSubdir_library_of_namesDir hrel ht)).1

theorem parts_library_of_namesDir :
    (ofString (library name t rel setSystemApart)).parts =
      libraryRoot t :: (ofString rel).parts ++ (if t.native then [] else [t.arch]) ++
        (if isApart name setSystemApart then [systemLibrariesDir] else []) := by
  rw [parts_library (isRelativeSubdir_library_of_namesDir hrel ht)]
  cases hn : t.native with
  | true => rfl
  | false => rw [parts_of_isPlainName (ht hn)]

include hu in
theorem ofString_library_eq_iff :
    ofString (library name t rel setSystemApart) = ofString (library name u rel setSystemApart) ↔
      t.SharesDir u := by
  have htranslated : (if t.native then [] else [t.arch]) = (if u.native then [] else [u.arch]) ↔
      t.native = u.native ∧ (t.native = false → t.arch = u.arch) := by
    cases t.native <;> cases u.native <;> simp
  rw [ext_iff', root_library_of_namesDir hrel ht, root_library_of_namesDir hrel hu,
    parts_library_of_namesDir hrel ht, parts_library_of_namesDir hrel hu,
    List.append_left_inj, List.cons_append, List.cons_append, List.cons.injEq,
    List.append_right_inj, libraryRoot_eq_iff, htranslated]
  exact and_iff_right rfl

end NamesDir

end InstallDir

section Settings

variable {s : Settings} {t u : Target}

theorem isPlainName_word (a : Arch) : isPlainName a.word = true := by
  cases a <;> decide

theorem Arch.word_injective : Function.Injective Arch.word := by
  intro a b h
  cases a <;> cases b <;> first | rfl | exact absurd h (by decide)

theorem exists_arch_of_mem_targetList (h : t ∈ s.targetList) :
    ∃ native arch, t = s.targetOs.target native arch := by
  rcases List.mem_append.1 h with h | h
  · obtain ⟨arch, -, rfl⟩ := List.mem_map.1 h
    exact ⟨true, arch, rfl⟩
  · obtain ⟨arch, -, rfl⟩ := List.mem_map.1 h
    exact ⟨false, arch, rfl⟩

theorem namesDir_of_mem_targetList (h : t ∈ s.targetList) : t.NamesDir := by
  obtain ⟨_, arch, rfl⟩ := exists_arch_of_mem_targetList h
  exact fun _ => isPlainName_word arch

/-- Settings are for one operating system, so their translated targets differ in architecture. -/
theorem eq_of_sharesDir (ht : t ∈ s.targetList) (hu : u ∈ s.targetList)
    (hn : ¬(t.native = true ∧ u.native = true ∧ t.is64bit = u.is64bit)) (h : t.SharesDir u) :
    t = u := by
  obtain ⟨hbits, hnative, harch⟩ := h
  obtain ⟨native, arch, rfl⟩ := exists_arch_of_mem_targetList ht
  obtain ⟨native', arch', rfl⟩ := exists_arch_of_mem_targetList hu
  change native = native' at hnative
  subst hnative
  cases native with
  | true => exact absurd ⟨rfl, rfl, hbits⟩ hn
  | false => rw [Arch.word_injective (harch rfl)]

end Settings

namespace InstallDir

variable {rel : String} {targets : List Target}

theorem nodup_libraries_iff (hrel : isRelativeSubdir rel = true)
    (htargets : ∀ t ∈ targets, t.NamesDir) (name : String) (setSystemApart : Bool) :
    (targets.map fun t => ofString (library name t rel setSystemApart)).Nodup ↔
      targets.Pairwise fun t u => ¬t.SharesDir u := by
  rw [List.Nodup, List.pairwise_map]
  exact List.Pairwise.iff_of_mem fun ht hu =>
    not_congr (ofString_library_eq_iff hrel (htargets _ ht) (htargets _ hu))

theorem nodup_libraries_of_settings (hrel : isRelativeSubdir rel = true) (name : String)
    (setSystemApart : Bool) {s : Settings} (hs : s.targetList.Nodup)
    (hnative : s.targetList.Pairwise fun t u =>
      ¬(t.native = true ∧ u.native = true ∧ t.is64bit = u.is64bit)) :
    (s.targetList.map fun t => ofString (library name t rel setSystemApart)).Nodup := by
  rw [nodup_libraries_iff hrel fun _ => namesDir_of_mem_targetList]
  exact (hs.and hnative).imp_of_mem fun ht hu h hshares =>
    h.1 (eq_of_sharesDir ht hu h.2 hshares)

/-- Where the libraries of several targets go: inside of the bundle, by bitness, own subdirectory,
architecture where it is translated, and apart if the system has them too; to different directories
exactly when no two of the targets share one, as those of settings do not. -/
theorem library_dirs_apart_iff (hrel : isRelativeSubdir rel = true)
    (htargets : ∀ t ∈ targets, t.NamesDir) (name : String) (setSystemApart : Bool) :
    ((targets.map fun t => ofString (library name t rel setSystemApart)).Nodup ↔
        targets.Pairwise fun t u => ¬t.SharesDir u) ∧
      (∀ t ∈ targets, isRelativeSubdir (library name t rel setSystemApart) = true ∧
        (ofString (library name t rel setSystemApart)).parts =
          (if t.is64bit then "lib64" else "lib") :: (ofString rel).parts ++
            (if t.native then [] else [t.arch]) ++
            (if setSystemApart && ["libc", "libm", "libdl"].contains name then ["bionic"]
              else [])) ∧
      ∀ s : Settings, s.targetList.Nodup →
        (s.targetList.Pairwise fun t u =>
          ¬(t.native = true ∧ u.native = true ∧ t.is64bit = u.is64bit)) →
        (s.targetList.map fun t => ofString (library name t rel setSystemApart)).Nodup :=
  ⟨nodup_libraries_iff hrel htargets name setSystemApart,
    fun t ht => ⟨isRelativeSubdir_library_of_namesDir hrel (htargets t ht),
      parts_library_of_namesDir hrel (htargets t ht)⟩,
    fun _ hs hnative => nodup_libraries_of_settings hrel name setSystemApart hs hnative⟩

def bridged : Settings :=
  { Settings.within .here with nativeBridgeTargets := [.arm64, .arm] }

theorem library_dirs_apart_bridged :
    (isRelativeSubdir "arm64//./bionic" = true ∧ (∀ t ∈ bridged.targetList, t.NamesDir) ∧
        bridged.targetList.Nodup ∧ bridged.targetList.Pairwise fun t u =>
          ¬(t.native = true ∧ u.native = true ∧ t.is64bit = u.is64bit)) ∧
      (bridged.targetList.map fun t => ofString (library "libc" t "arm64//./bionic" true)).Nodup ∧
      (bridged.targetList.Pairwise fun t u => ¬t.SharesDir u) ∧
      ∀ t ∈ bridged.targetList,
        isRelativeSubdir (library "libc" t "arm64//./bionic" true) = true := by
  have hrel : isRelativeSubdir "arm64//./bionic" = true := by decide +kernel
  have htargets : ∀ t ∈ bridged.targetList, t.NamesDir := by decide
  have hnodup : bridged.targetList.Nodup := by decide
  have hnative : bridged.targetList.Pairwise fun t u =>
      ¬(t.native = true ∧ u.native = true ∧ t.is64bit = u.is64bit) := by decide
  have h := library_dirs_apart_iff hrel htargets "libc" true
  have hdirs := h.2.2 bridged hnodup hnative
  exact ⟨⟨hrel, htargets, hnodup, hnative⟩, hdirs, h.1.1 hdirs, fun t ht => (h.2.1 t ht).1⟩

def translated (os : TargetOs) (arch : String) : Target :=
  { os := os.word, osClass := os.osClass, arch, multilib := "lib32", native := false }

/-- Different targets, none of them native, share a directory when only their operating systems
differ; and an architecture with a root leads out of the bundle. -/
theorem library_dirs_meet_translated :
    [translated .android "x86", translated .linuxGlibc "x86"].Nodup ∧
      isRelativeSubdir "hw" = true ∧
      library "l" (translated .android "x86") "hw" true =
        library "l" (translated .linuxGlibc "x86") "hw" true ∧
      isRelativeSubdir (library "l" (translated .android "/x86") "hw" true) = false := by
  decide +kernel

end InstallDir

end BundleWright
