import BundleWright.Proofs.Requests
/-!
What the buckets of a bundle ask for. Main statement: for each target a module is requested once for
each time that it is named in a bucket which applies to the target, or in a list that stands for
one, and nothing else is requested.
-/
namespace BundleWright

/-- How often the buckets name a module for the target at a position, going by one of the two lists
that each bucket has. -/
def Multilib.timesNamed (m : Multilib) (list : NativeDeps → List String) (targets : List Target)
    (i : Nat) (t : Target) (name : String) : Nat :=
  (list m.both).count name +
    (if i = 0 then (list m.first).count name else 0) +
    (if t.is32bit then (list m.lib32).count name else 0) +
    (if t.is64bit then (list m.lib64).count name else 0) +
    (if t.is32bit ∨ t.is64bit ∧ ∀ u ∈ targets, ¬u.is32bit then (list m.prefer32).count name else 0)

namespace Request

variable {targets : List Target} {main : Bool} {t u : Target} {props : BundleProperties}
  {multilib : Multilib} {image name : String} {rs rs' : List Request} {r : Request}

def namesWith (tag : Tag) (rs : List Request) : List String :=
  (rs.filter (·.tag = tag)).map (·.name)

def selector? (t : Target) (image : String) : Tag → Option Selector
  | .sharedLib => some [("arch", t.variantName), ("image", image), ("link", "shared")]
  | .executable => some [("arch", t.variantName), ("image", image)]
  | .prebuilt => some [("arch", t.variantName)]
  | _ => none

structure IsExact (targets : List Target) (i : Nat) (t : Target) (props : BundleProperties)
    (multilib : Multilib) (image : String) (rs : List Request) : Prop where
  libraries (name : String) : (namesWith .sharedLib rs).count name =
    props.nativeSharedLibs.count name + multilib.timesNamed NativeDeps.sharedLibs targets i t name
  executables (name : String) : (namesWith .executable rs).count name =
    (if i = 0 then props.binaries.count name else 0) +
      multilib.timesNamed NativeDeps.binaries targets i t name
  resources (name : String) : (namesWith .prebuilt rs).count name =
    if i = 0 then props.prebuilts.count name else 0
  selectors : ∀ r ∈ rs, selector? t image r.tag = some r.selector

def AnyFrom (bucket : Bucket) (rs : List Request) : Prop := ∃ r ∈ rs, r.bucket = some bucket

section Names

variable {tag : Tag}

@[simp] theorem namesWith_nil : namesWith tag [] = [] := rfl

@[simp] theorem namesWith_append :
    namesWith tag (rs ++ rs') = namesWith tag rs ++ namesWith tag rs' := by
  simp [namesWith]

@[simp] theorem namesWith_ite {p : Prop} [Decidable p] :
    namesWith tag (if p then rs else rs') =
      if p then namesWith tag rs else namesWith tag rs' := by
  split <;> rfl

theorem namesWith_map {f : String → Request} (own : Tag) (htag : ∀ n, (f n).tag = own)
    (hname : ∀ n, (f n).name = n) (names : List String) :
    namesWith tag (names.map f) = if own = tag then names else [] := by
  split
  · next h => simp [namesWith, List.filter_map, Function.comp_def, htag, hname, h]
  · next h => simp [namesWith, List.filter_map, Function.comp_def, htag, h]

variable {bucket : Bucket} {deps : NativeDeps}

@[simp] theorem namesWith_native : namesWith tag (native t image bucket deps) =
    (if .sharedLib = tag then deps.sharedLibs else []) ++
      if .executable = tag then deps.binaries else [] := by
  rw [native, namesWith_append, namesWith_map .sharedLib (fun _ => rfl) fun _ => rfl,
    namesWith_map .executable (fun _ => rfl) fun _ => rfl]

@[simp] theorem namesWith_prebuilts (names : List String) :
    namesWith tag (names.map (prebuilt t)) = if .prebuilt = tag then names else [] :=
  namesWith_map .prebuilt (fun _ => rfl) (fun _ => rfl) names

end Names

theorem selector?_of_forTarget (h : ForTarget t image r) :
    selector? t image r.tag = some r.selector := by
  cases h <;> rfl

theorem applies_prefer32_iff : Bucket.prefer32.applies targets main t ↔
    t.is32bit ∨ t.is64bit ∧ ∀ u ∈ targets, ¬u.is32bit := by
  simp [Bucket.applies]

theorem count_ite_nil {p : Prop} [Decidable p] (names : List String) (name : String) :
    (if p then names else []).count name = if p then names.count name else 0 := by
  split <;> rfl

theorem count_namesWith_forTarget (tag : Tag) (name : String) :
    (namesWith tag (forTarget targets main t props multilib image)).count name =
      (namesWith tag (native t image .both ⟨props.nativeSharedLibs, []⟩)).count name +
      (if main then (namesWith tag (native t image .first ⟨[], props.binaries⟩)).count name
        else 0) +
      (if main then (namesWith tag (props.prebuilts.map (prebuilt t))).count name else 0) +
      Bucket.all.foldr (fun b n => (if b.applies targets main t then
        (namesWith tag (native t image b (multilib.bucket b))).count name else 0) + n) 0 := by
  simp only [forTarget, namesWith_append, namesWith_ite, namesWith_nil, List.count_append,
    count_ite_nil, Bucket.all, List.foldr_cons, List.foldr_nil]
  omega

theorem isExact_forTarget (i : Nat) :
    IsExact targets i t props multilib image
      (forTarget targets (i = 0) t props multilib image) where
  libraries name := by
    rw [count_namesWith_forTarget]
    simp [Bucket.all, Bucket.applies, Multilib.timesNamed, Multilib.bucket]
    omega
  executables name := by
    rw [count_namesWith_forTarget]
    simp [Bucket.all, Bucket.applies, Multilib.timesNamed, Multilib.bucket]
    omega
  resources name := by
    rw [count_namesWith_forTarget]
    simp [Bucket.all]
  selectors r hr := selector?_of_forTarget (forTarget_of_mem_forTarget hr)

def atIndex (targets : List Target) (props : BundleProperties) (multilib : Multilib)
    (image : String) (i : Nat) (t : Target) : List Request :=
  forTarget targets (i = 0) t props multilib image

theorem forTargets_eq_flatten : forTargets targets props multilib image =
    (targets.mapIdx (atIndex targets props multilib image)).flatten := by
  unfold forTargets atIndex
  split
  · rfl
  · next t rest =>
    have hrest : rest.mapIdx (fun i u =>
        forTarget (t :: rest) (i + 1 = 0) u props multilib image) =
          rest.map fun u => forTarget (t :: rest) false u props multilib image :=
      List.ext_getElem (by simp) fun i _ _ => by simp
    simp only [List.mapIdx_cons, List.flatten_cons, List.flatMap_def, decide_true, hrest]

section FromBuckets

variable {bucket : Bucket} {deps : NativeDeps}

theorem bucket_of_mem_native (h : r ∈ native t image bucket deps) : r.bucket = some bucket := by
  rcases List.mem_append.1 h with h | h <;> obtain ⟨n, _, rfl⟩ := List.mem_map.1 h <;> rfl

theorem mem_forTarget_iff : r ∈ forTarget targets main t props multilib image ↔
    r ∈ native t image .both ⟨props.nativeSharedLibs, []⟩ ∨
      (main = true ∧ r ∈ native t image .first ⟨[], props.binaries⟩) ∨
      (main = true ∧ r ∈ props.prebuilts.map (prebuilt t)) ∨
      ∃ b : Bucket, b.applies targets main t ∧ r ∈ native t image b (multilib.bucket b) := by
  have hexists {p : Bucket → Prop} :
      (∃ b, p b) ↔ p .first ∨ p .both ∨ p .prefer32 ∨ p .lib32 ∨ p .lib64 :=
    ⟨fun ⟨b, h⟩ => by cases b <;> simp [h], by rintro (h | h | h | h | h) <;> exact ⟨_, h⟩⟩
  simp only [forTarget, List.mem_append, List.mem_ite_nil_right, hexists]
  grind

theorem applies_of_anyFrom_prefer32
    (h : AnyFrom .prefer32 (forTarget targets main t props multilib image)) :
    Bucket.prefer32.applies targets main t := by
  obtain ⟨r, hr, hb⟩ := h
  rcases mem_forTarget_iff.1 hr with h | ⟨_, h⟩ | ⟨_, h⟩ | ⟨b, ha, h⟩
  · cases (bucket_of_mem_native h).symm.trans hb
  · cases (bucket_of_mem_native h).symm.trans hb
  · obtain ⟨n, _, rfl⟩ := List.mem_map.1 h
    cases hb
  · cases (bucket_of_mem_native h).symm.trans hb
    exact ha

theorem mem_forTargets_of_applies {i : Nat} (ht : targets[i]? = some t)
    (ha : bucket.applies targets (i = 0) t)
    (h : r ∈ native t image bucket (multilib.bucket bucket)) :
    r ∈ forTargets targets props multilib image := by
  rw [forTargets_eq_flatten, List.mem_flatten]
  obtain ⟨hi, rfl⟩ := List.getElem?_eq_some_iff.1 ht
  refine ⟨_, List.mem_mapIdx.2 ⟨i, hi, rfl⟩, ?_⟩
  exact mem_forTarget_iff.2 (.inr (.inr (.inr ⟨bucket, ha, h⟩)))

/-- Among targets that all have a bitness there is one that `prefer32` is for. -/
theorem exists_applies_prefer32 (hne : targets ≠ []) (hb : ∀ t ∈ targets, t.is32bit ∨ t.is64bit) :
    ∃ i t, targets[i]? = some t ∧ Bucket.prefer32.applies targets (i = 0) t := by
  by_cases h : ∃ t ∈ targets, t.is32bit
  · obtain ⟨t, ht, h32⟩ := h
    obtain ⟨i, hi⟩ := List.mem_iff_getElem?.1 ht
    exact ⟨i, t, hi, applies_prefer32_iff.2 (.inl h32)⟩
  · have hno : ∀ u ∈ targets, ¬u.is32bit := fun u hu h32 => h ⟨u, hu, h32⟩
    obtain ⟨t, rest, rfl⟩ := List.exists_cons_of_ne_nil hne
    have ht : t ∈ t :: rest := List.mem_cons_self
    exact ⟨0, t, rfl, applies_prefer32_iff.2 (.inr ⟨(hb t ht).resolve_left (hno t ht), hno⟩)⟩

end FromBuckets

/-- The requests for a list of targets are those for each of them, in their order. Those for one
target name each module as often as the lists that apply to it do, with the variations that belong
to the tag, and there are no others. What is in `prefer32` is requested for some target, and never
for both bitnesses. -/
theorem forTargets_exact (targets : List Target) (props : BundleProperties) (multilib : Multilib)
    (image : String) :
    forTargets targets props multilib image =
        (targets.mapIdx (atIndex targets props multilib image)).flatten ∧
      (∀ i t, targets[i]? = some t →
        IsExact targets i t props multilib image (atIndex targets props multilib image i t)) ∧
      (targets ≠ [] → (∀ t ∈ targets, t.is32bit ∨ t.is64bit) →
        (∀ name ∈ multilib.prefer32.sharedLibs, ∃ r ∈ forTargets targets props multilib image,
          r.bucket = some .prefer32 ∧ r.tag = .sharedLib ∧ r.name = name) ∧
        ∀ name ∈ multilib.prefer32.binaries, ∃ r ∈ forTargets targets props multilib image,
          r.bucket = some .prefer32 ∧ r.tag = .executable ∧ r.name = name) ∧
      ∀ i j t u, targets[i]? = some t → targets[j]? = some u → t.is32bit → u.is64bit →
        ¬(AnyFrom .prefer32 (atIndex targets props multilib image i t) ∧
          AnyFrom .prefer32 (atIndex targets props multilib image j u)) := by
  refine ⟨forTargets_eq_flatten, fun i t _ => isExact_forTarget i, fun hne hb => ?_, ?_⟩
  · obtain ⟨i, t, ht, ha⟩ := exists_applies_prefer32 hne hb
    constructor
    · intro name hn
      have hr : library t image .prefer32 name ∈ native t image .prefer32 multilib.prefer32 :=
        List.mem_append_left _ (List.mem_map_of_mem hn)
      exact ⟨_, mem_forTargets_of_applies ht ha hr, rfl, rfl, rfl⟩
    · intro name hn
      have hr : executable t image .prefer32 name ∈ native t image .prefer32 multilib.prefer32 :=
        List.mem_append_right _ (List.mem_map_of_mem hn)
      exact ⟨_, mem_forTargets_of_applies ht ha hr, rfl, rfl, rfl⟩
  · rintro i j t u ht - h32 h64 ⟨-, hu⟩
    have hmem : t ∈ targets := List.mem_of_getElem? ht
    rcases applies_prefer32_iff.1 (applies_of_anyFrom_prefer32 hu) with hu32 | ⟨-, hno⟩
    · simp only [Target.is32bit, Target.is64bit, beq_iff_eq] at hu32 h64
      rw [hu32] at h64
      exact absurd h64 (by decide)
    · exact hno t hmem h32

def mixedTargets : List Target :=
  [TargetOs.android.target true .arm64, TargetOs.android.target true .arm]

def mixedBuckets : Multilib where
  both := { sharedLibs := ["a"] }
  first := { binaries := ["t"] }
  prefer32 := { sharedLibs := ["a", "b", "b"] }

theorem forTargets_exact_mixed :
    ∃ r64 r32, forTargets mixedTargets { nativeSharedLibs := ["a"] } mixedBuckets "core" =
        r64 ++ r32 ∧
      (namesWith .sharedLib r64).count "a" = 2 ∧ (namesWith .sharedLib r32).count "a" = 3 ∧
      AnyFrom .prefer32 r32 ∧ ¬AnyFrom .prefer32 r64 := by
  obtain ⟨hflatten, hexact, -, hone⟩ :=
    forTargets_exact mixedTargets { nativeSharedLibs := ["a"] } mixedBuckets "core"
  have hfrom : AnyFrom .prefer32 (atIndex mixedTargets { nativeSharedLibs := ["a"] } mixedBuckets
      "core" 1 (TargetOs.android.target true .arm)) :=
    ⟨library (TargetOs.android.target true .arm) "core" .prefer32 "b", by decide, rfl⟩
  refine ⟨_, _, hflatten.trans ?_, (hexact 0 _ rfl).libraries "a", (hexact 1 _ rfl).libraries "a",
    hfrom, fun h => hone 1 0 _ _ rfl rfl rfl rfl ⟨hfrom, h⟩⟩
  rw [← List.append_nil (atIndex _ _ _ _ 1 _)]
  rfl

end Request

end BundleWright
