import BundleWright.Declaration.Defaults
import BundleWright.Proofs.Merge
/-!
The properties of bundles as records. Main statement: each record in them is read, merged and put
out field by field, whichever names its buckets were written under.
-/
namespace BundleWright

open Declaration

theorem Declaration.readObject_parts_iff {α : Type} {parts : List (Part α)}
    {known : Fields → List String} {readFields : Fields → Checked α} {j : Datum} {a : α}
    (hk : ∀ fs, known fs = parts.map (·.written fs))
    (h : ∀ fs, readFields fs = .sound a ↔ ∀ p ∈ parts, p.read fs = .sound (p.value a)) :
    readObject known readFields j = .sound a ↔
      ∃ fs, j = .obj fs ∧ (∀ p ∈ parts, p.read fs = .sound (p.value a)) ∧
        Checked.noOthers fs (parts.map (·.written fs)) = .sound () := by
  simp only [readObject_eq_sound_iff, h, hk]

namespace Checked

variable {α β : Type} {x : Checked α} {a : α}

theorem map_of_sound (f : α → β) (h : x = .sound a) : f <$> x = .sound (f a) := by
  rw [h, map_sound]

theorem seq_of_sound {f : Checked (α → β)} {g : α → β} (hf : f = .sound g) (hx : x = .sound a) :
    (f <*> x) = .sound (g a) := by
  rw [hf, hx, seq_sound]

end Checked

namespace Declaration

variable {fs : Fields} {short long : String}

theorem bucketKey_of_mem (h : .str short ∈ fs.keys) : bucketKey fs short long = short :=
  if_pos (List.contains_iff_mem.2 h)

theorem bucketKey_of_notMem (h : .str short ∉ fs.keys) : bucketKey fs short long = long :=
  if_neg (mt List.contains_iff_mem.1 h)

theorem bucketKey_eq_or (fs : Fields) (short long : String) :
    bucketKey fs short long = short ∨ bucketKey fs short long = long :=
  ite_eq_or_eq _ _ _

inductive IsShort : String → String → Prop
  | lib32 : IsShort "32" "lib32"
  | lib64 : IsShort "64" "lib64"

theorem IsShort.fieldName_eq_iff {k : Scalar} (h : IsShort short long) :
    fieldName k = long ↔ k = long ∨ k = short := by
  unfold fieldName
  cases h
  · split <;> simp_all
  · split <;> simp_all

end Declaration

namespace Part

variable {α : Type}

def names (key : String) (value : α → List String) : Part α where
  kind := .names
  key
  value

def text (key : String) (value : α → Option String) : Part α where
  kind := .single .str Checked.string (fun _ => by simp) fun _ => rfl
  key
  value

def flag (key : String) (value : α → Option Bool) : Part α where
  kind := .single .bool Checked.bool (fun _ => by simp) fun _ => rfl
  key
  value

def block {β : Type} (r : Record β) (key : String) (value : α → β) : Part α where
  kind := r.mergeable
  key
  value

theorem plain_block {β : Type} {r : Record β} {key : String} {value : α → β}
    (h : key ∉ renamed) : (block r key value).Plain :=
  ⟨fun _ => rfl, h⟩

def aliased {β : Type} (r : Record β) (short key : String) (value : α → β) : Part α where
  kind := r.mergeable
  key
  value
  written fs := bucketKey fs short key

theorem found_aliased {β : Type} {r : Record β} {short key : String} {value : α → β} {ws : Fields}
    (h : IsShort short key) (hl : .str short ∈ ws.keys → .str key ∉ ws.keys) :
    (aliased r short key value).Found ws := by
  intro k hk
  change fieldName k = .str key ↔ k = .str (bucketKey ws short key)
  rw [h.fieldName_eq_iff]
  by_cases hs : .str short ∈ ws.keys
  · rw [bucketKey_of_mem hs]
    exact ⟨fun h => h.resolve_left fun he => hl hs (he ▸ hk), .inr⟩
  · rw [bucketKey_of_notMem hs]
    exact ⟨fun h => h.resolve_right fun he => hs (he ▸ hk), .inl⟩

end Part

namespace NativeDeps

def parts : List (Part NativeDeps) :=
  [.names "native_shared_libs" (·.sharedLibs), .names "binaries" (·.binaries)]

theorem plain_parts : ∀ p ∈ parts, p.Plain := by
  simp [parts, Part.names, Part.Plain, renamed]

def record : Record NativeDeps where
  parts
  read := readNativeDeps
  overlay := append
  absent := {}
  read_eq_iff := by
    rintro j ⟨libs, bins⟩
    refine readObject_parts_iff (fun _ => rfl) fun fs => ?_
    simp [parts, Part.read, Part.names, Mergeable.names, Checked.seq_eq_sound_iff,
      Checked.map_eq_sound_iff]
  value_overlay := by simp [parts, Part.names, append, Mergeable.names]
  value_absent := by simp [parts, Part.names, Mergeable.names]
  ext := by
    rintro ⟨_, _⟩ ⟨_, _⟩ h
    simpa [parts, Part.names] using h
  nodup_keys := by decide
  written_eq _ p hp := (plain_parts p hp).1 _
  found _ p hp := (plain_parts p hp).found

end NativeDeps

namespace Multilib

def parts : List (Part Multilib) :=
  [.block NativeDeps.record "first" (·.first), .block NativeDeps.record "both" (·.both),
    .block NativeDeps.record "prefer32" (·.prefer32),
    .aliased NativeDeps.record "32" "lib32" (·.lib32),
    .aliased NativeDeps.record "64" "lib64" (·.lib64)]

def record : Record Multilib where
  parts
  read := readMultilib
  overlay := extended
  absent := {}
  read_eq_iff := by
    rintro j ⟨first, both, prefer32, lib32, lib64⟩
    refine readObject_parts_iff (fun _ => rfl) fun fs => ?_
    simp [parts, Part.read, Part.block, Part.aliased, Record.mergeable, NativeDeps.record,
      Checked.seq_eq_sound_iff, Checked.map_eq_sound_iff, and_assoc]
  value_overlay := by
    simp [parts, Part.block, Part.aliased, extended, ofBuckets, bucket, Record.mergeable,
      NativeDeps.record]
  value_absent := by simp [parts, Part.block, Part.aliased, Record.mergeable, NativeDeps.record]
  ext := by
    rintro ⟨_, _, _, _, _⟩ ⟨_, _, _, _, _⟩ h
    simpa [parts, Part.block, Part.aliased] using h
  nodup_keys := by decide
  written_eq := by
    intro fs hk
    have h32 : .str "32" ∉ fs.keys := fun h => by
      simpa [parts, Part.block, Part.aliased] using hk _ h
    have h64 : .str "64" ∉ fs.keys := fun h => by
      simpa [parts, Part.block, Part.aliased] using hk _ h
    simp [parts, Part.block, Part.aliased, bucketKey, h32, h64]
  found := by
    intro ws ho
    -- where the short name of a bucket is written, its long one is not among the known names
    have hk := Checked.noOthers_eq_sound_iff.1 ho
    simp only [parts, List.forall_mem_cons]
    refine ⟨(Part.plain_block (by decide)).found, (Part.plain_block (by decide)).found,
      (Part.plain_block (by decide)).found, Part.found_aliased .lib32 fun hs hl => ?_,
      Part.found_aliased .lib64 fun hs hl => ?_, List.forall_mem_nil _⟩
    · have hlong := hk _ hl
      rcases bucketKey_eq_or ws "64" "lib64" with h | h <;>
        simp [parts, Part.block, Part.aliased, bucketKey_of_mem hs, h] at hlong
    · have hlong := hk _ hl
      rcases bucketKey_eq_or ws "32" "lib32" with h | h <;>
        simp [parts, Part.block, Part.aliased, bucketKey_of_mem hs, h] at hlong

end Multilib

def osRecord : Record Multilib where
  parts := [.block Multilib.record "multilib" id]
  read := readOsMultilib
  overlay := .extended
  absent := {}
  read_eq_iff := by
    intro j m
    refine readObject_parts_iff (fun _ => rfl) fun fs => ?_
    simp [Part.read, Part.block, Record.mergeable, Multilib.record]
  value_overlay := by simp [Part.block, Record.mergeable, Multilib.record]
  value_absent := by simp [Part.block, Record.mergeable, Multilib.record]
  ext := by simp [Part.block]
  nodup_keys := by decide
  written_eq _ := by simp [Part.block]
  found _ := List.forall_mem_singleton.2 (Part.plain_block (by decide)).found

namespace PerOs

def parts : List (Part PerOs) :=
  [.block osRecord "android" (·.android), .block osRecord "host" (·.host),
    .block osRecord "linux_bionic" (·.linuxBionic), .block osRecord "linux_glibc" (·.linuxGlibc)]

theorem plain_parts : ∀ p ∈ parts, p.Plain := by
  simp [parts, Part.block, Part.Plain, renamed]

def record : Record PerOs where
  parts
  read := readPerOs
  overlay := overlay
  absent := {}
  read_eq_iff := by
    rintro j ⟨android, host, bionic, glibc⟩
    refine readObject_parts_iff (fun _ => rfl) fun fs => ?_
    simp [parts, Part.read, Part.block, Record.mergeable, osRecord,
      Checked.seq_eq_sound_iff, Checked.map_eq_sound_iff, and_assoc]
  value_overlay := by simp [parts, Part.block, overlay, Record.mergeable, osRecord]
  value_absent := by simp [parts, Part.block, Record.mergeable, osRecord]
  ext := by
    rintro ⟨_, _, _, _⟩ ⟨_, _, _, _⟩ h
    simpa [parts, Part.block] using h
  nodup_keys := by decide
  written_eq _ p hp := (plain_parts p hp).1 _
  found _ p hp := (plain_parts p hp).found

end PerOs

namespace BundleProperties

def parts : List (Part BundleProperties) :=
  [.text "manifest" (·.manifest), .text "file_contexts" (·.fileContexts),
    .names "native_shared_libs" (·.nativeSharedLibs), .names "binaries" (·.binaries),
    .names "java_libs" (·.javaLibs), .names "prebuilts" (·.prebuilts), .text "key" (·.key),
    .text "payload_type" (·.payloadType), .text "certificate" (·.certificate),
    .flag "installable" (·.installable), .flag "use_vendor" (·.useVendor),
    .flag "ignore_system_library_special_case" (·.ignoreSystemLibrarySpecialCase),
    .block Multilib.record "multilib" (·.multilib), .block PerOs.record "target" (·.perOs)]

theorem plain_parts : ∀ p ∈ parts, p.Plain := by
  simp [parts, Part.text, Part.flag, Part.names, Part.block, Part.Plain, renamed]

theorem readProperties_eq_iff {fs : Fields} {a : BundleProperties} :
    readProperties fs = .sound a ↔ ∀ p ∈ parts, p.read fs = .sound (p.value a) := by
  constructor
  · intro h
    simp only [readProperties, Checked.seq_eq_sound_iff, Checked.map_eq_sound_iff] at h
    obtain ⟨_, _, h, htarget, rfl⟩ := h
    obtain ⟨_, _, h, hmultilib, rfl⟩ := h
    obtain ⟨_, _, h, hspecial, rfl⟩ := h
    obtain ⟨_, _, h, hvendor, rfl⟩ := h
    obtain ⟨_, _, h, hinstallable, rfl⟩ := h
    obtain ⟨_, _, h, hcertificate, rfl⟩ := h
    obtain ⟨_, _, h, hpayload, rfl⟩ := h
    obtain ⟨_, _, h, hkey, rfl⟩ := h
    obtain ⟨_, _, h, hprebuilts, rfl⟩ := h
    obtain ⟨_, _, h, hjava, rfl⟩ := h
    obtain ⟨_, _, h, hbinaries, rfl⟩ := h
    obtain ⟨_, _, h, hlibs, rfl⟩ := h
    obtain ⟨_, _, h, hcontexts, rfl⟩ := h
    obtain ⟨_, hmanifest, rfl⟩ := h
    simp only [parts, List.forall_mem_cons]
    exact ⟨hmanifest, hcontexts, hlibs, hbinaries, hjava, hprebuilts, hkey, hpayload, hcertificate,
      hinstallable, hvendor, hspecial, hmultilib, htarget, List.forall_mem_nil _⟩
  · intro h
    simp only [parts, List.forall_mem_cons] at h
    obtain ⟨hmanifest, hcontexts, hlibs, hbinaries, hjava, hprebuilts, hkey, hpayload, hcertificate,
      hinstallable, hvendor, hspecial, hmultilib, htarget, -⟩ := h
    have h := Checked.map_of_sound mk hmanifest
    have h := Checked.seq_of_sound h hcontexts
    have h := Checked.seq_of_sound h hlibs
    have h := Checked.seq_of_sound h hbinaries
    have h := Checked.seq_of_sound h hjava
    have h := Checked.seq_of_sound h hprebuilts
    have h := Checked.seq_of_sound h hkey
    have h := Checked.seq_of_sound h hpayload
    have h := Checked.seq_of_sound h hcertificate
    have h := Checked.seq_of_sound h hinstallable
    have h := Checked.seq_of_sound h hvendor
    have h := Checked.seq_of_sound h hspecial
    have h := Checked.seq_of_sound h hmultilib
    exact Checked.seq_of_sound h htarget

def record : Record BundleProperties where
  parts
  read := readPropertyObject
  overlay := overlay
  absent := {}
  read_eq_iff := by
    intro j a
    exact readObject_parts_iff (fun _ => rfl) fun fs => readProperties_eq_iff
  value_overlay := by
    simp [parts, Part.text, Part.flag, Part.names, Part.block, Mergeable.names, Mergeable.single,
      Record.mergeable, Multilib.record, PerOs.record, overlay]
  value_absent := by
    simp [parts, Part.text, Part.flag, Part.names, Part.block, Mergeable.names, Mergeable.single,
      Record.mergeable, Multilib.record, PerOs.record]
  ext := by
    intro a b h
    cases a
    cases b
    simpa [parts, Part.text, Part.flag, Part.names, Part.block] using h
  nodup_keys := by decide
  written_eq _ p hp := (plain_parts p hp).1 _
  found _ p hp := (plain_parts p hp).found

theorem toFields_record (p : BundleProperties) : record.toFields p = p.toFields := rfl

end BundleProperties

end BundleWright
