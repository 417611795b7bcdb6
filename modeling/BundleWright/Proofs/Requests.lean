import BundleWright.Proofs.Dependencies
/-!
The requests of a bundle. Main statements: a request for a native module or a resource file is made
for one of the targets of the bundle, and of the requests for no file there is one for the key and
at most one for the certificate.
-/
namespace BundleWright

inductive Request.ForTarget (t : Target) (image : String) : Request → Prop
  | library {bucket : Bucket} {name : String} : ForTarget t image (.library t image bucket name)
  | executable {bucket : Bucket} {name : String} :
      ForTarget t image (.executable t image bucket name)
  | prebuilt {name : String} : ForTarget t image (.prebuilt t name)

namespace Request

variable {t : Target} {image : String} {r : Request}

theorem forTarget_of_mem_native {bucket : Bucket} {deps : NativeDeps}
    (h : r ∈ native t image bucket deps) : ForTarget t image r := by
  rcases List.mem_append.1 h with h | h
  · obtain ⟨name, _, rfl⟩ := List.mem_map.1 h
    exact .library
  · obtain ⟨name, _, rfl⟩ := List.mem_map.1 h
    exact .executable

theorem forTarget_of_mem_forTarget {targets : List Target} {main : Bool} {props : BundleProperties}
    {multilib : Multilib} (h : r ∈ forTarget targets main t props multilib image) :
    ForTarget t image r := by
  have hprebuilt (h : r ∈ props.prebuilts.map (prebuilt t)) : ForTarget t image r := by
    obtain ⟨name, _, rfl⟩ := List.mem_map.1 h
    exact .prebuilt
  simp only [forTarget, List.mem_append] at h
  rcases h with ((((((h | h) | h) | h) | h) | h) | h) | h
  · exact forTarget_of_mem_native h
  all_goals split at h
  all_goals first
    | exact forTarget_of_mem_native h
    | exact hprebuilt h
    | simp at h

theorem exists_of_mem_forTargets {targets : List Target} {props : BundleProperties}
    {multilib : Multilib} (h : r ∈ forTargets targets props multilib image) :
    ∃ t ∈ targets, ForTarget t image r := by
  unfold forTargets at h
  split at h
  · simp at h
  · next t rest =>
    rcases List.mem_append.1 h with h | h
    · exact ⟨t, by simp, forTarget_of_mem_forTarget h⟩
    · obtain ⟨u, hu, h⟩ := List.mem_flatMap.1 h
      exact ⟨u, by simp [hu], forTarget_of_mem_forTarget h⟩

theorem ForTarget.arch? (h : ForTarget t image r) : r.arch? = some t.variantName := by
  cases h <;> rfl

def IsForFile (r : Request) : Prop :=
  r.tag = .sharedLib ∨ r.tag = .executable ∨ r.tag = .javaLib ∨ r.tag = .prebuilt

theorem ForTarget.isForFile (h : ForTarget t image r) : r.IsForFile := by
  cases h with
  | library => exact .inl rfl
  | executable => exact .inr (.inl rfl)
  | prebuilt => exact .inr (.inr (.inr rfl))

end Request

namespace BundleModule

variable {b : BundleModule} {s : Settings} {r r' : Request}

theorem forTarget_or_java_of_mem_requests (h : r ∈ b.requests s) :
    (∃ t ∈ b.node.targets, Request.ForTarget t (b.requestedImage s) r) ∨
      ∃ name, r = Request.java b.target.os name := by
  rcases List.mem_append.1 h with h | h
  · exact .inl (Request.exists_of_mem_forTargets h)
  · obtain ⟨name, _, rfl⟩ := List.mem_map.1 h
    exact .inr ⟨name, rfl⟩

theorem isForFile_of_mem_requests (h : r ∈ b.requests s) : r.IsForFile := by
  rcases forTarget_or_java_of_mem_requests h with ⟨t, _, h⟩ | ⟨name, rfl⟩
  · exact h.isForFile
  · exact .inr (.inr (.inl rfl))

theorem mem_allRequests (h : r ∈ b.allRequests s) :
    r ∈ b.requests s ∨
      (∃ key, Bundle.given b.properties.key = some key ∧
        r = ModuleGraph.wholeRequest .key key) ∨
      ∃ name, b.properties.certificate.bind moduleReference? = some name ∧
        r = ModuleGraph.wholeRequest .certificate name := by
  rcases List.mem_append.1 h with h | h
  · exact .inl h
  · split at h
    · simp at h
    · next key hk =>
      rcases List.mem_cons.1 h with rfl | h
      · exact .inr (.inl ⟨key, hk, rfl⟩)
      · obtain ⟨name, hn, rfl⟩ := List.mem_map.1 h
        exact .inr (.inr ⟨name, Option.mem_toList.1 hn, rfl⟩)

theorem eq_of_tag_eq (h : r ∈ b.allRequests s) (h' : r' ∈ b.allRequests s) (hf : ¬r.IsForFile)
    (ht : r'.tag = r.tag) : r' = r := by
  have hf' : ¬r'.IsForFile := by simpa [Request.IsForFile, ht] using hf
  have hno {q : Request} (hq : ¬q.IsForFile) : q ∉ b.requests s := fun hm =>
    hq (isForFile_of_mem_requests hm)
  rcases (mem_allRequests h).resolve_left (hno hf) with ⟨key, hk, rfl⟩ | ⟨name, hn, rfl⟩
  · rcases (mem_allRequests h').resolve_left (hno hf') with ⟨key', hk', rfl⟩ | ⟨_, _, rfl⟩
    · rw [hk, Option.some.injEq] at hk'
      rw [hk']
    · cases ht
  · rcases (mem_allRequests h').resolve_left (hno hf') with ⟨_, _, rfl⟩ | ⟨name', hn', rfl⟩
    · cases ht
    · rw [hn, Option.some.injEq] at hn'
      rw [hn']

theorem tag_ne_moduleDep (h : r ∈ b.allRequests s) : r.tag ≠ .moduleDep := by
  rcases mem_allRequests h with hm | ⟨_, _, rfl⟩ | ⟨_, _, rfl⟩
  · have hf := isForFile_of_mem_requests hm
    rintro ht
    simp [Request.IsForFile, ht] at hf
  · simp [ModuleGraph.wholeRequest]
  · simp [ModuleGraph.wholeRequest]

end BundleModule

end BundleWright
