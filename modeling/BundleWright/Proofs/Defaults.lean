import BundleWright.Proofs.PropertyRecords
/-!
Defaults of bundles. Main statement: what the defaults and the bundle wrote, merged, is read without
a flaw, as the bundle in which every list is the lists of the defaults before its own, and every
other property that it leaves unset is that of the last defaults that set it.
-/
namespace BundleWright

open Declaration

/-- A declaration together with the data that it was read from. -/
structure Accepted {α : Type} (read : Datum → Checked α) where
  source : Datum
  value : α
  sound : read source = .sound value

def Accepted.writtenProperties (d : Accepted readDefaults) : Datum :=
  writtenPart (.obj d.value.properties.toFields) d.source

def Accepted.writtenBundle (b : Accepted readBundle) : Datum :=
  writtenPart b.value.toDatum b.source

def mergedDefaults (ds : List (Accepted readDefaults)) : Datum :=
  ds.foldl (fun m d => Datum.mergeValue m d.writtenProperties) (.obj [])

def mergedBundle (b : Accepted readBundle) (ds : List (Accepted readDefaults)) : Datum :=
  Datum.mergeValue (mergedDefaults ds) b.writtenBundle

inductive NativeList where
  | sharedLibs
  | binaries

def NativeList.of : NativeList → NativeDeps → List String
  | .sharedLibs => NativeDeps.sharedLibs
  | .binaries => NativeDeps.binaries

inductive OsBlock where
  | android
  | host
  | linuxBionic
  | linuxGlibc

def OsBlock.of : OsBlock → PerOs → Multilib
  | .android => PerOs.android
  | .host => PerOs.host
  | .linuxBionic => PerOs.linuxBionic
  | .linuxGlibc => PerOs.linuxGlibc

inductive ListProperty where
  | nativeSharedLibs
  | binaries
  | javaLibs
  | prebuilts
  | multilib (bucket : Bucket) (list : NativeList)
  | perOs (os : OsBlock) (bucket : Bucket) (list : NativeList)

def ListProperty.of : ListProperty → BundleProperties → List String
  | .nativeSharedLibs => BundleProperties.nativeSharedLibs
  | .binaries => BundleProperties.binaries
  | .javaLibs => BundleProperties.javaLibs
  | .prebuilts => BundleProperties.prebuilts
  | .multilib bucket list => fun p => list.of (p.multilib.bucket bucket)
  | .perOs os bucket list => fun p => list.of ((os.of p.perOs).bucket bucket)

inductive TextProperty where
  | manifest
  | fileContexts
  | key
  | payloadType
  | certificate

def TextProperty.of : TextProperty → BundleProperties → Option String
  | .manifest => BundleProperties.manifest
  | .fileContexts => BundleProperties.fileContexts
  | .key => BundleProperties.key
  | .payloadType => BundleProperties.payloadType
  | .certificate => BundleProperties.certificate

inductive FlagProperty where
  | installable
  | useVendor
  | ignoreSystemLibrarySpecialCase

def FlagProperty.of : FlagProperty → BundleProperties → Option Bool
  | .installable => BundleProperties.installable
  | .useVendor => BundleProperties.useVendor
  | .ignoreSystemLibrarySpecialCase => BundleProperties.ignoreSystemLibrarySpecialCase

/-- Whether `r` is the bundle `b` with the properties of `ds` filled in, field by field. -/
structure Bundle.FilledIn (b : Bundle) (ds : List BundleDefaults) (r : Bundle) : Prop where
  name_eq : r.name = b.name
  flavor_eq : r.flavor = b.flavor
  defaults_eq : r.defaults = b.defaults
  list_eq (l : ListProperty) :
    l.of r.properties = ds.flatMap (fun d => l.of d.properties) ++ l.of b.properties
  text_eq (t : TextProperty) :
    t.of r.properties = (t.of b.properties).or (ds.filterMap fun d => t.of d.properties).getLast?
  flag_eq (f : FlagProperty) :
    f.of r.properties = (f.of b.properties).or (ds.filterMap fun d => f.of d.properties).getLast?

section Overlay

variable (p q : BundleProperties) (ds : List BundleDefaults)

theorem NativeList.of_append (l : NativeList) (a b : NativeDeps) :
    l.of (a.append b) = l.of a ++ l.of b := by
  cases l <;> rfl

theorem ListProperty.of_overlay (l : ListProperty) : l.of (p.overlay q) = l.of p ++ l.of q := by
  cases l with
  | multilib bucket list => simp [of, BundleProperties.overlay, list.of_append]
  | perOs os bucket list =>
    cases os <;>
      simp [of, BundleProperties.overlay, PerOs.overlay, OsBlock.of, list.of_append]
  | _ => rfl

theorem ListProperty.of_empty (l : ListProperty) : l.of {} = [] := by
  cases l with
  | multilib bucket list => cases bucket <;> cases list <;> rfl
  | perOs os bucket list => cases os <;> cases bucket <;> cases list <;> rfl
  | _ => rfl

theorem TextProperty.of_overlay (t : TextProperty) :
    t.of (p.overlay q) = (t.of q).or (t.of p) := by
  cases t <;> rfl

theorem TextProperty.of_empty (t : TextProperty) : t.of {} = none := by
  cases t <;> rfl

theorem FlagProperty.of_overlay (f : FlagProperty) :
    f.of (p.overlay q) = (f.of q).or (f.of p) := by
  cases f <;> rfl

theorem FlagProperty.of_empty (f : FlagProperty) : f.of {} = none := by
  cases f <;> rfl

namespace BundleProperties

variable {p ds}

def overlays (p : BundleProperties) (ds : List BundleDefaults) : BundleProperties :=
  ds.foldl (fun p d => p.overlay d.properties) p

theorem list_overlays {get : BundleProperties → List String}
    (h : ∀ p q, get (p.overlay q) = get p ++ get q) :
    get (p.overlays ds) = get p ++ ds.flatMap fun d => get d.properties := by
  induction ds generalizing p with
  | nil => exact (List.append_nil _).symm
  | cons d ds ih =>
    change get ((p.overlay d.properties).overlays ds) = _
    rw [ih, h, List.append_assoc, List.flatMap_cons]

theorem option_overlays {β : Type} {get : BundleProperties → Option β}
    (h : ∀ p q, get (p.overlay q) = (get q).or (get p)) :
    get (p.overlays ds) = (ds.filterMap fun d => get d.properties).getLast?.or (get p) := by
  induction ds generalizing p with
  | nil => rfl
  | cons d ds ih =>
    change get ((p.overlay d.properties).overlays ds) = _
    rw [ih, h, List.filterMap_cons]
    cases get d.properties with
    | none => rfl
    | some b =>
      rw [List.getLast?_cons]
      cases (ds.filterMap fun d => get d.properties).getLast? <;> rfl

end BundleProperties

theorem Bundle.filledIn_withDefaults (b : Bundle) : b.FilledIn ds (b.withDefaults ds) where
  name_eq := rfl
  flavor_eq := rfl
  defaults_eq := rfl
  list_eq l := by
    change l.of ((BundleProperties.overlays {} ds).overlay b.properties) = _
    rw [l.of_overlay, BundleProperties.list_overlays l.of_overlay, l.of_empty, List.nil_append]
  text_eq t := by
    change t.of ((BundleProperties.overlays {} ds).overlay b.properties) = _
    rw [t.of_overlay, BundleProperties.option_overlays t.of_overlay, t.of_empty, Option.or_none]
  flag_eq f := by
    change f.of ((BundleProperties.overlays {} ds).overlay b.properties) = _
    rw [f.of_overlay, BundleProperties.option_overlays f.of_overlay, f.of_empty, Option.or_none]

end Overlay

section Reading

variable {j : Datum} {ws : Fields}

theorem fields_of_readDefaults {d : BundleDefaults} (h : readDefaults j = .sound d) :
    ∃ ws, j = .obj ws ∧ readProperties ws = .sound d.properties := by
  obtain ⟨ws, rfl, h, -⟩ := readObject_eq_sound_iff.1 h
  simp only [Checked.seq_eq_sound_iff, Checked.map_eq_sound_iff] at h
  obtain ⟨_, _, ⟨_, _, ⟨_, hp, rfl⟩, _, rfl⟩, _, rfl⟩ := h
  exact ⟨ws, rfl, hp⟩

def Bundle.ownFields (b : Bundle) : Fields :=
  [("type", .str b.flavor.word), ("name", .str b.name), ("defaults", .ofStrings b.defaults)]

def Bundle.toFields (b : Bundle) : Fields := b.properties.toFields ++ b.ownFields

theorem readName_str {s : String} (h : readName j = .sound s) : readName (.str s) = .sound s := by
  obtain ⟨hl, hm⟩ := readName_eq_sound_iff.1 h
  obtain ⟨-, hlength⟩ := readLabel_eq_sound_iff.1 hl
  exact readName_eq_sound_iff.2 ⟨readLabel_eq_sound_iff.2 ⟨rfl, hlength⟩, hm⟩

theorem readWord_word (flavor : BundleFlavor) :
    readWord BundleFlavor.word [.apex, .test] (.str flavor.word) = .sound flavor := by
  cases flavor <;> rfl

/-- Fields read from a source can be read again from what was written of them. -/
theorem field_of_kept {α : Type} {fs : Fields} {key : String} {default a : α}
    {read : Datum → Checked α} {d : Datum} (hget : fs.get? key = (ws.get? key).map fun _ => d)
    (hd : read d = .sound a) (h : Checked.field ws key default read = .sound a) :
    Checked.field fs key default read = .sound a := by
  unfold Checked.field at *
  rw [hget]
  cases hk : ws.get? key with
  | none =>
    rw [hk] at h
    exact h
  | some j => exact Checked.under_eq_sound_iff.2 hd

theorem required_of_kept {α : Type} {fs : Fields} {key : String} {a : α}
    {read : Datum → Checked α} {d : Datum} (hget : fs.get? key = (ws.get? key).map fun _ => d)
    (hd : read d = .sound a) (h : Checked.required ws key read = .sound a) :
    Checked.required fs key read = .sound a := by
  unfold Checked.required at *
  rw [hget]
  cases hk : ws.get? key with
  | none =>
    rw [hk] at h
    exact absurd (Checked.under_eq_sound_iff.1 h) (Checked.fail_ne_sound _ _)
  | some j => exact Checked.under_eq_sound_iff.2 hd

end Reading

namespace BundleProperties

theorem shows_writtenProperties (d : Accepted readDefaults) :
    record.Shows d.writtenProperties d.value.properties := by
  obtain ⟨ws, hws, hp⟩ := fields_of_readDefaults d.sound
  unfold Accepted.writtenProperties
  rw [hws, ← toFields_record]
  exact Record.shows_written (fun p hp => (plain_parts p hp).found) (readProperties_eq_iff.1 hp)

theorem shows_foldl {m : Datum} {p : BundleProperties} (h : record.Shows m p)
    (ds : List (Accepted readDefaults)) :
    record.Shows (ds.foldl (fun m d => Datum.mergeValue m d.writtenProperties) m)
      (p.overlays (ds.map (·.value))) := by
  induction ds generalizing m p with
  | nil => exact h
  | cons d ds ih => exact ih (Record.shows_merge h (shows_writtenProperties d))

theorem shows_mergedDefaults (ds : List (Accepted readDefaults)) :
    record.Shows (mergedDefaults ds) (overlays {} (ds.map (·.value))) :=
  shows_foldl Record.shows_empty ds

end BundleProperties

namespace Bundle

variable {b : Bundle} {base ws : Fields} {p : BundleProperties}

theorem toDatum_eq : b.toDatum = .obj b.toFields := rfl

theorem keys_toFields :
    b.toFields.keys = (propertyKeys ++ ["type", "name", "defaults"]).map .str := rfl

theorem nodup_keys_toFields : b.toFields.keys.Nodup := by
  rw [keys_toFields]
  decide

theorem readProperties_merge (hbase : BundleProperties.record.Holds base p)
    (h : readProperties ws = .sound b.properties) :
    readProperties (Datum.mergeFields base (writtenFields b.toFields ws)) =
      .sound (p.overlay b.properties) := by
  have hplain := BundleProperties.plain_parts
  have htop := Record.holds_written (r := BundleProperties.record) b.ownFields
    (fun p hp => (hplain p hp).found) (BundleProperties.readProperties_eq_iff.1 h)
  have hn : (writtenFields b.toFields ws).keys.Nodup :=
    sublist_keys_writtenFields.nodup nodup_keys_toFields
  have hm := Record.holds_merge hn hbase htop
  exact BundleProperties.readProperties_eq_iff.2 fun q hq =>
    Part.read_of_holds (hm q hq) ((hplain q hq).1 _)

theorem get?_ownField {key : String} {d : Datum} (hbase : base.get? key = none)
    (hk : key ∉ renamed) (hfull : b.toFields.get? key = some d) (hd : ∀ j, writtenPart d j = d) :
    (Datum.mergeFields base (writtenFields b.toFields ws)).get? key =
      (ws.get? key).map fun _ => d := by
  have hn : (writtenFields b.toFields ws).keys.Nodup :=
    sublist_keys_writtenFields.nodup nodup_keys_toFields
  have hfind := find?_fieldName fun w (_ : w ∈ ws) => fieldName_eq_self_iff (k := w.1) hk
  rw [Datum.get?_mergeFields hn, hbase, get?_writtenFields, hfull, ← hfind, Option.map_map]
  simp [Datum.mergeOption, hd, Function.comp_def]

theorem readFrom_merge (hbase : ∀ k ∈ base.keys, ∃ s ∈ propertyKeys, k = .str s)
    (h : ReadFrom b ws) : ReadFrom b (Datum.mergeFields base (writtenFields b.toFields ws)) := by
  have hnone {key : String} (hkey : key ∉ propertyKeys) : base.get? key = none :=
    Fields.get?_eq_none_iff.2 fun hmem => by
      obtain ⟨s, hs, he⟩ := hbase _ hmem
      cases he
      exact hkey hs
  constructor
  -- what the bundle has of its own comes from the bundle alone, so it is read as it was at first
  · exact field_of_kept (get?_ownField (hnone (by decide)) (by decide) rfl (writtenPart_scalar _))
      (readWord_word _) h.flavor
  · obtain ⟨j, hj⟩ := Checked.exists_of_required h.name
    exact required_of_kept
      (get?_ownField (hnone (by decide)) (by decide) rfl (writtenPart_scalar _))
      (readName_str hj) h.name
  · exact field_of_kept
      (get?_ownField (hnone (by decide)) (by decide) rfl (writtenPart_ofStrings _))
      (Checked.strings_ofStrings _) h.defaults

theorem noOthers_merge (hbase : ∀ k ∈ base.keys, ∃ s ∈ propertyKeys, k = .str s) :
    Checked.noOthers (Datum.mergeFields base (writtenFields b.toFields ws))
      ("type" :: "name" :: "defaults" :: propertyKeys) = .sound () := by
  refine Checked.noOthers_eq_sound_iff.2 fun k hk => ?_
  rcases (Datum.mem_keys_mergeFields _ _).1 hk with hk | hk
  · obtain ⟨s, hs, rfl⟩ := hbase k hk
    exact ⟨s, by simp [hs], rfl⟩
  · have hmem := sublist_keys_writtenFields.subset hk
    rw [keys_toFields] at hmem
    obtain ⟨s, hs, rfl⟩ := List.mem_map.1 hmem
    rcases List.mem_append.1 hs with hs | hs
    · exact ⟨s, by simp [hs], rfl⟩
    · exact ⟨s, List.mem_append_left propertyKeys hs, rfl⟩

end Bundle

theorem readBundle_mergedBundle (b : Accepted readBundle) (ds : List (Accepted readDefaults)) :
    readBundle (mergedBundle b ds) = .sound (b.value.withDefaults (ds.map (·.value))) := by
  obtain ⟨base, hbase, -, hk, hh⟩ := BundleProperties.shows_mergedDefaults ds
  obtain ⟨ws, hws, ⟨hp, hown⟩, -⟩ := readBundle_eq_sound_iff.1 b.sound
  have hkeys : ∀ k ∈ base.keys, ∃ s ∈ propertyKeys, k = .str s := fun k hmem => by
    obtain ⟨q, hq, rfl⟩ := hk k hmem
    exact ⟨q.key, List.mem_map_of_mem (f := Part.key) hq, rfl⟩
  have hmerged : mergedBundle b ds =
      .obj (Datum.mergeFields base (writtenFields b.value.toFields ws)) := by
    unfold mergedBundle Accepted.writtenBundle
    rw [hbase, hws, Bundle.toDatum_eq, writtenPart_obj, Datum.mergeValue_obj]
  have hrest := Bundle.readFrom_merge hkeys hown
  exact readBundle_eq_sound_iff.2 ⟨_, hmerged,
    ⟨Bundle.readProperties_merge hh hp, hrest.flavor, hrest.name, hrest.defaults⟩,
    Bundle.noOthers_merge hkeys⟩

theorem Bundle.withDefaults_nil (b : Bundle) : b.withDefaults [] = b :=
  congrArg (fun p => { b with properties := p })
    (BundleProperties.record.mergeable.absent_overlay b.properties)

namespace Bundle

/-- Defaults are filled in field by field, and what they make of a bundle is what is read from the
merged data; without defaults it is the bundle itself. -/
theorem withDefaults_fieldwise (b : Accepted readBundle) (ds : List (Accepted readDefaults)) :
    readBundle (mergedBundle b ds) = .sound (b.value.withDefaults (ds.map (·.value))) ∧
      b.value.FilledIn (ds.map (·.value)) (b.value.withDefaults (ds.map (·.value))) ∧
      b.value.withDefaults [] = b.value :=
  ⟨readBundle_mergedBundle b ds, filledIn_withDefaults _ b.value, b.value.withDefaults_nil⟩

def lib32Binaries (names : List String) : Multilib := { lib32 := { binaries := names } }

def shortNamed : Accepted readBundle where
  source := .obj [("name", .str "b"), ("installable", .bool false), ("key", .null),
    ("multilib", .obj [("32", .obj [("binaries", .arr [.str "y"])])])]
  value.name := "b"
  value.properties := { installable := some false, multilib := lib32Binaries ["y"] }
  sound := rfl

def longNamed : Accepted readDefaults where
  source := .obj [("name", .str "d"), ("installable", .bool true), ("key", .str "k"),
    ("multilib", .obj [("lib32", .obj [("binaries", .arr [.str "x"])])])]
  value.name := "d"
  value.properties :=
    { key := some "k", installable := some true, multilib := lib32Binaries ["x"] }
  sound := rfl

theorem withDefaults_fieldwise_bothNames :
    ∃ r, readBundle (mergedBundle shortNamed [longNamed]) = .sound r ∧ r.properties =
      { key := some "k", installable := some false, multilib := lib32Binaries ["x", "y"] } :=
  ⟨_, (withDefaults_fieldwise shortNamed [longNamed]).1, rfl⟩

end Bundle

end BundleWright
