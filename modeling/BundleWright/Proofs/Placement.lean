import BundleWright.Action
import BundleWright.Proofs.Collection
import BundleWright.Proofs.InstallDir
/-!
Where the files of a bundle come to lie. Main statements: what an action stages lies where the files
belong below the staged directory, and every file that is collected stands in a directory in normal
form, with links beside it only among the executables.
-/
namespace BundleWright

open BundleWright.Path

def Work.places : Work → List Path
  | .stage copies links => copies.map (·.dest) ++ links.map (·.link)
  | _ => []

namespace PackagedFile

def place (f : PackagedFile) : Path := ofString f.installDir / f.builtFile.name

def linkPlace (f : PackagedFile) (s : String) : Path := ofString f.installDir / s

variable {f : PackagedFile} {dir : Path}

theorem root_installDir (f : PackagedFile) : (ofString f.installDir).root = .none :=
  (isRelativeSubdir_iff.1 f.inside).1

theorem root_name (p : Path) : (ofString p.name).root = .none := by
  by_cases h : p.name = ""
  · rw [h, ofString_empty]
    rfl
  · rw [ofString_component (isComponent_name h)]

theorem root_place (f : PackagedFile) : f.place.root = .none :=
  (join_root_of_relative (root_name _)).trans f.root_installDir

theorem parts_place (h : f.builtFile.name ≠ "") :
    f.place.parts = (ofString f.installDir).parts ++ [f.builtFile.name] :=
  parts_div_component (isComponent_name h)

theorem parent_place (h : f.builtFile.name ≠ "") : f.place.parent = ofString f.installDir := by
  rw [ext_iff', parent_root, parent_parts, parts_place h, f.root_place, f.root_installDir]
  simp

theorem root_linkPlace {s : String} (hs : s ∈ f.symlinks) : (f.linkPlace s).root = .none :=
  (root_div_component (isComponent_of_isPlainName (f.plain s hs))).trans f.root_installDir

theorem parts_linkPlace {s : String} (hs : s ∈ f.symlinks) :
    (f.linkPlace s).parts = (ofString f.installDir).parts ++ [s] :=
  parts_div_component (isComponent_of_isPlainName (f.plain s hs))

theorem destination_eq (f : PackagedFile) (dir : Path) : f.destination dir = dir / f.place :=
  div_assoc f.root_installDir (root_name _)

theorem link_links (h : f.place.parts ≠ []) (dir : Path) :
    (f.links dir).map (·.link) =
      f.symlinks.map fun (s : String) => dir / (f.place.parent / s : Path) := by
  rw [links, List.map_map]
  refine List.map_congr_left fun s hs => ?_
  have hc := ofString_component (isComponent_of_isPlainName (f.plain s hs))
  rw [Function.comp_apply, destination_eq, parent_div f.root_place h]
  exact div_assoc f.root_place (by rw [hc])

theorem links_eq (h : f.builtFile.name ≠ "") (dir : Path) :
    f.links dir = f.symlinks.map fun s => ⟨f.builtFile.name, dir / f.linkPlace s⟩ := by
  have hne : f.place.parts ≠ [] := by simp [parts_place h]
  have hname : f.place.name = f.builtFile.name := by simp [name, parts_place h]
  refine List.map_congr_left fun s hs => ?_
  have hc := ofString_component (isComponent_of_isPlainName (f.plain s hs))
  have hd : ((dir / ofString f.installDir : Path) / ofString s : Path) = dir / f.linkPlace s :=
    div_assoc f.root_installDir (by rw [hc])
  rw [destination_eq, name_div f.root_place hne, hname, parent_div f.root_place hne, parent_place h]
  exact congrArg (FileLink.mk _) hd

end PackagedFile

namespace Node.Offers

variable {n : Node} {p : Path} {d : String} {links : List String} {setSystemApart : Bool}

theorem isNormalDir (h : n.Offers setSystemApart p d links) : IsNormalDir d := by
  have hd := h.installDir
  unfold InstallDir.ofNode? at hd
  split at hd
  · cases hd
    exact InstallDir.isNormalDir_library
  · cases hd
    decide +kernel
  · cases hd
    exact isNormalDir_joinDirs (by decide) _
  · cases hd
    decide +kernel
  · cases hd
    exact isNormalDir_joinDirs (by decide) _
  · cases hd

theorem installDir_of_links (h : n.Offers setSystemApart p d links) (hl : links ≠ []) :
    d = InstallDir.binary := by
  have ha := h.aliases
  unfold Node.aliases at ha
  split at ha
  · next x hk =>
    have hd := h.installDir
    simp only [InstallDir.ofNode?, hk, Option.some.injEq] at hd
    exact hd.symm
  · exact absurd ha.symm hl

end Node.Offers

/-- What the collected files of any bundle are like: their directories are in normal form, and links
stand among the executables only. -/
structure PackagedFile.Settled (f : PackagedFile) : Prop where
  normal : IsNormalDir f.installDir
  links : f.symlinks ≠ [] → f.installDir = InstallDir.binary

theorem Collection.settled_of_mem {g : ModuleGraph} {b : BundleModule} {settings : Settings}
    {c : Collection} (h : Collection.ofBundle g b settings = .ok c) {f : PackagedFile}
    (hf : f ∈ c.files) : f.Settled := by
  obtain ⟨_, n, _, hof⟩ := Collection.exists_isOf h hf
  exact ⟨hof.offers.isNormalDir, hof.offers.installDir_of_links⟩

end BundleWright
