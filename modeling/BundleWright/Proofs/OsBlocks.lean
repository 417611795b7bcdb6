import BundleWright.Proofs.Defaults
import BundleWright.Request
import BundleWright.Workspace
import Mathlib.Data.List.Perm.Basic
/-!
The buckets that a bundle has for single operating systems. Main statement: a bundle requests what
it would without them, and beside it what the blocks of its own system name; the other blocks make
no difference, and appending buckets to buckets never makes them unacceptable.
-/
namespace BundleWright

open Declaration

section Appending

theorem NativeDeps.append_assoc (a b c : NativeDeps) :
    (a.append b).append c = a.append (b.append c) := by
  simp [append]

theorem NativeDeps.append_empty (a : NativeDeps) : a.append {} = a := by simp [append]

theorem NativeDeps.empty_append (a : NativeDeps) : append {} a = a := by simp [append]

namespace Multilib

@[simp] theorem bucket_empty (k : Bucket) : bucket {} k = {} := by cases k <;> rfl

theorem extended_assoc (a b c : Multilib) :
    (a.extended b).extended c = a.extended (b.extended c) :=
  ext_bucket fun k => by simp [NativeDeps.append_assoc]

theorem extended_empty (a : Multilib) : a.extended {} = a :=
  ext_bucket fun k => by simp [NativeDeps.append_empty]

theorem empty_extended (a : Multilib) : extended {} a = a :=
  ext_bucket fun k => by simp [NativeDeps.empty_append]

end Multilib

end Appending

section Acceptable

variable {j : Datum}

def AreNames (names : List String) : Prop := ∀ n ∈ names, dependencyFault? n = none

theorem areNames_of_readDependencies {names : List String}
    (h : readDependencies j = .sound names) : AreNames names := by
  obtain ⟨read, -, h⟩ := Checked.andThen_eq_sound_iff.1 h
  split at h
  · next hnone =>
    cases h
    exact List.findSome?_eq_none_iff.1 hnone
  · exact absurd h (Checked.fail_ne_sound _ _)

theorem field_of_get? {α : Type} {fs : Fields} {key : String} {d : Datum} {default a : α}
    {read : Datum → Checked α} (hget : fs.get? key = some d) (h : read d = .sound a) :
    Checked.field fs key default read = .sound a := by
  unfold Checked.field
  rw [hget]
  exact Checked.under_eq_sound_iff.2 h

theorem readDependencies_ofStrings {names : List String} (h : AreNames names) :
    readDependencies (.ofStrings names) = .sound names := by
  simp [readDependencies, Checked.strings_ofStrings, Checked.andThen,
    List.findSome?_eq_none_iff.2 h]

def NativeDeps.Acceptable (d : NativeDeps) : Prop := AreNames d.sharedLibs ∧ AreNames d.binaries

namespace NativeDeps

variable {d e : NativeDeps}

theorem acceptable_empty : Acceptable {} := ⟨List.forall_mem_nil _, List.forall_mem_nil _⟩

theorem Acceptable.append (hd : d.Acceptable) (he : e.Acceptable) : (d.append e).Acceptable :=
  ⟨fun n hn => (List.mem_append.1 hn).elim (hd.1 n) (he.1 n),
    fun n hn => (List.mem_append.1 hn).elim (hd.2 n) (he.2 n)⟩

theorem acceptable_of_read (h : readNativeDeps j = .sound d) : d.Acceptable := by
  obtain ⟨fs, h⟩ := exists_of_readObject h
  simp only [Checked.seq_eq_sound_iff, Checked.map_eq_sound_iff] at h
  obtain ⟨_, bins, ⟨libs, hlibs, rfl⟩, hbins, rfl⟩ := h
  have hnames {key : String} {names : List String}
      (h : Checked.field fs key [] readDependencies = .sound names) : AreNames names := by
    rcases Checked.eq_or_exists_of_field h with rfl | ⟨_, h⟩
    · exact List.forall_mem_nil _
    · exact areNames_of_readDependencies h
  exact ⟨hnames hlibs, hnames hbins⟩

theorem read_toDatum (h : d.Acceptable) : readNativeDeps d.toDatum = .sound d := by
  refine readObject_eq_sound_iff.2 ⟨_, rfl, ?_, rfl⟩
  exact Checked.seq_of_sound
    (Checked.map_of_sound mk (field_of_get? rfl (readDependencies_ofStrings h.1)))
    (field_of_get? rfl (readDependencies_ofStrings h.2))

end NativeDeps

namespace Multilib

variable {m n : Multilib}

theorem acceptable_of_read (h : readMultilib j = .sound m) (k : Bucket) :
    (m.bucket k).Acceptable := by
  obtain ⟨fs, h⟩ := exists_of_readObject h
  simp only [Checked.seq_eq_sound_iff, Checked.map_eq_sound_iff] at h
  obtain ⟨_, lib64, ⟨_, lib32, ⟨_, prefer32, ⟨_, both, ⟨first, hfirst, rfl⟩, hboth, rfl⟩,
    hprefer32, rfl⟩, hlib32, rfl⟩, hlib64, rfl⟩ := h
  have hdeps {key : String} {d : NativeDeps}
      (h : Checked.field fs key {} readNativeDeps = .sound d) : d.Acceptable := by
    rcases Checked.eq_or_exists_of_field h with rfl | ⟨_, h⟩
    · exact NativeDeps.acceptable_empty
    · exact NativeDeps.acceptable_of_read h
  cases k with
  | first => exact hdeps hfirst
  | both => exact hdeps hboth
  | prefer32 => exact hdeps hprefer32
  | lib32 => exact hdeps hlib32
  | lib64 => exact hdeps hlib64

theorem read_toDatum (h : ∀ k, (m.bucket k).Acceptable) : readMultilib m.toDatum = .sound m := by
  refine readObject_eq_sound_iff.2 ⟨_, rfl, ?_, rfl⟩
  have hread (k : Bucket) : readNativeDeps (m.bucket k).toDatum = .sound (m.bucket k) :=
    NativeDeps.read_toDatum (h k)
  have hfield (k : Bucket) :
      Checked.field (Bucket.all.map fun b => (.str b.word, (m.bucket b).toDatum)) k.word {}
        readNativeDeps = .sound (m.bucket k) :=
    field_of_get? (by cases k <;> rfl) (hread k)
  have h := Checked.map_of_sound mk (hfield .first)
  have h := Checked.seq_of_sound h (hfield .both)
  have h := Checked.seq_of_sound h (hfield .prefer32)
  have h := Checked.seq_of_sound h (hfield .lib32)
  exact Checked.seq_of_sound h (hfield .lib64)

theorem read_extended (hm : ∀ k, (m.bucket k).Acceptable) (hn : ∀ k, (n.bucket k).Acceptable) :
    readMultilib (m.extended n).toDatum = .sound (m.extended n) :=
  read_toDatum fun k => by simpa using (hm k).append (hn k)

end Multilib

end Acceptable

def PerOs.blocks (p : PerOs) : TargetOs → List Multilib
  | .android => [p.android]
  | .linuxBionic => [p.host, p.linuxBionic]
  | .linuxGlibc => [p.host, p.linuxGlibc]

def Multilib.requests (m : Multilib) (targets : List Target) (image : String) : List Request :=
  Request.forTargets targets {} m image

namespace Request

variable {targets : List Target} {main : Bool} {t : Target} {props : BundleProperties}
  {m n : Multilib} {image : String}

theorem count_native_append (r : Request) (bucket : Bucket) (d e : NativeDeps) :
    (native t image bucket (d.append e)).count r =
      (native t image bucket d).count r + (native t image bucket e).count r := by
  simp only [native, NativeDeps.append, List.map_append, List.count_append]
  omega

/-- What is appended to buckets is requested beside what was in them, target by target. -/
theorem forTarget_extended_perm :
    (forTarget targets main t props (m.extended n) image).Perm
      (forTarget targets main t props m image ++ forTarget targets main t {} n image) := by
  refine List.perm_iff_count.2 fun r => ?_
  have hempty {bucket : Bucket} : native t image bucket {} = [] := rfl
  have hbucket (b : Bucket) : (if b.applies targets main t then
        native t image b ((m.extended n).bucket b) else []).count r =
      (if b.applies targets main t then native t image b (m.bucket b) else []).count r +
        (if b.applies targets main t then native t image b (n.bucket b) else []).count r := by
    rw [Multilib.bucket_extended]
    split
    · exact count_native_append r b _ _
    · rfl
  simp only [forTarget, List.count_append, hbucket, hempty, List.map_nil, ite_self, List.count_nil]
  omega

theorem forTargets_extended_perm :
    (forTargets targets props (m.extended n) image).Perm
      (forTargets targets props m image ++ n.requests targets image) := by
  unfold Multilib.requests forTargets
  split
  · exact .refl _
  · next t rest =>
    have hrest :
        (rest.flatMap fun u => forTarget (t :: rest) false u props (m.extended n) image).Perm
        ((rest.flatMap fun u => forTarget (t :: rest) false u props m image) ++
          rest.flatMap fun u => forTarget (t :: rest) false u {} n image) :=
      (List.Perm.flatMap_left rest fun u _ => forTarget_extended_perm).trans
        (List.flatMap_append_perm rest _ _).symm
    refine (forTarget_extended_perm.append hrest).trans (List.perm_iff_count.2 fun r => ?_)
    simp only [List.count_append]
    omega

theorem forTargets_foldl_perm (blocks : List Multilib) :
    (forTargets targets props (blocks.foldl .extended m) image).Perm
      (forTargets targets props m image ++ blocks.flatMap (·.requests targets image)) := by
  induction blocks generalizing m with
  | nil => exact .of_eq (List.append_nil _).symm
  | cons n blocks ih =>
    rw [List.flatMap_cons, ← List.append_assoc]
    exact ih.trans (forTargets_extended_perm.append_right _)

theorem forTargets_perOs (p : PerOs) :
    forTargets targets { props with perOs := p } m image = forTargets targets props m image := by
  cases targets <;> rfl

end Request

theorem combinedMultilib_eq (props : BundleProperties) (os : TargetOs) :
    props.combinedMultilib os.word os.osClass =
      (props.perOs.blocks os).foldl .extended props.multilib := by
  cases os <;> rfl

namespace Bundle

variable (b : Bundle) (s₀ s : Settings) (dir : Path)

theorem osClass_of_mem_targetList {t : Target} (h : t ∈ s.targetList) :
    t.osClass = s.targetOs.osClass := by
  rcases List.mem_append.1 h with h | h <;> obtain ⟨a, _, rfl⟩ := List.mem_map.1 h <;> rfl

/-- A bundle requests what is in its buckets with the blocks of its system appended. A bundle for no
target has no system to go by, but then the buckets make no request. -/
theorem requests_module : (b.module s₀ dir).requests s =
    Request.forTargets s₀.targetList b.properties
        ((b.properties.perOs.blocks s₀.targetOs).foldl .extended b.properties.multilib)
        ((b.module s₀ dir).requestedImage s) ++
      b.properties.javaLibs.map (Request.java s₀.targetOs.word) := by
  have hnative (image : String) : Request.forTargets s₀.targetList b.properties
      (b.properties.combinedMultilib s₀.targetOs.word
        ((s₀.targetList.head?.map Target.osClass).getD .device)) image =
        Request.forTargets s₀.targetList b.properties
          ((b.properties.perOs.blocks s₀.targetOs).foldl .extended b.properties.multilib) image := by
    rw [← combinedMultilib_eq]
    cases htargets : s₀.targetList with
    | nil => rfl
    | cons t rest =>
      have ht : t ∈ s₀.targetList := htargets ▸ List.mem_cons_self
      rw [List.head?_cons, Option.map_some, Option.getD_some, osClass_of_mem_targetList s₀ ht]
  exact congrArg (· ++ b.properties.javaLibs.map (Request.java s₀.targetOs.word)) (hnative _)

def withPerOs (p : PerOs) : Bundle := { b with properties := { b.properties with perOs := p } }

theorem requests_withPerOs (p : PerOs) : ((b.withPerOs p).module s₀ dir).requests s =
    Request.forTargets s₀.targetList b.properties
        ((p.blocks s₀.targetOs).foldl .extended b.properties.multilib)
        ((b.module s₀ dir).requestedImage s) ++
      b.properties.javaLibs.map (Request.java s₀.targetOs.word) := by
  have himage : ((b.withPerOs p).module s₀ dir).requestedImage s =
      (b.module s₀ dir).requestedImage s := rfl
  rw [requests_module, himage]
  exact congrArg (· ++ b.properties.javaLibs.map (Request.java s₀.targetOs.word))
    (Request.forTargets_perOs p)

/-- What a bundle requests for an operating system is what it requests without any block, and what
the blocks for that system name, once each; what the others name makes no difference. Appending
buckets is associative, has the empty ones as identity, and gives buckets that are accepted again. -/
theorem requests_of_blocks :
    ((b.module s₀ dir).requests s).Perm
        (((b.withPerOs {}).module s₀ dir).requests s ++
          (b.properties.perOs.blocks s₀.targetOs).flatMap
            (·.requests s₀.targetList ((b.module s₀ dir).requestedImage s))) ∧
      (∀ p : PerOs, p.blocks s₀.targetOs = b.properties.perOs.blocks s₀.targetOs →
        ((b.withPerOs p).module s₀ dir).requests s = (b.module s₀ dir).requests s) ∧
      (∀ x y z : Multilib, (x.extended y).extended z = x.extended (y.extended z)) ∧
      (∀ x : Multilib, x.extended {} = x ∧ Multilib.extended {} x = x) ∧
      ∀ x y : Accepted readMultilib,
        readMultilib (x.value.extended y.value).toDatum = .sound (x.value.extended y.value) := by
  refine ⟨?_, fun p hp => ?_, Multilib.extended_assoc,
    fun x => ⟨x.extended_empty, x.empty_extended⟩, fun x y => ?_⟩
  · have hbare : ((({} : PerOs).blocks s₀.targetOs).foldl .extended b.properties.multilib) =
        b.properties.multilib := by
      cases s₀.targetOs <;> simp [PerOs.blocks, Multilib.extended_empty]
    rw [requests_module, requests_withPerOs, hbare]
    refine ((Request.forTargets_foldl_perm _).append_right _).trans
      (List.perm_iff_count.2 fun r => ?_)
    simp only [List.count_append]
    omega
  · rw [requests_withPerOs, requests_module, hp]
  · exact Multilib.read_extended (Multilib.acceptable_of_read x.sound)
      (Multilib.acceptable_of_read y.sound)

def hostTool : Bundle where
  name := "z"
  properties :=
    { nativeSharedLibs := ["a"]
      perOs :=
        { android := { both := { sharedLibs := ["x"] } }
          host := { both := { sharedLibs := ["h"] } }
          linuxGlibc := { lib64 := { sharedLibs := ["g", "h"] } } } }

def hostSettings : Settings where
  sourceRoot := .here
  outDir := .here
  installRoot := .here
  targets := [.x86_64]
  targetOs := .linuxGlibc

theorem requests_of_blocks_hostTool :
    let blocks := hostTool.properties.perOs
    ((hostTool.module hostSettings .here).requests hostSettings).map (·.name) =
        ["a", "h", "g", "h"] ∧
      blocks.blocks .linuxGlibc = [blocks.host, blocks.linuxGlibc] ∧
      ((hostTool.withPerOs { blocks with android := {} }).module hostSettings .here).requests
        hostSettings = (hostTool.module hostSettings .here).requests hostSettings := by
  have h := requests_of_blocks hostTool hostSettings hostSettings .here
  exact ⟨by decide, rfl, h.2.1 _ rfl⟩

end Bundle

end BundleWright
