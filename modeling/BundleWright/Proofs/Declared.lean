import BundleWright.Declaration.Reader
import BundleWright.Proofs.Path.Text
/-!
What a declaration file that is accepted declares. Main statement: subdirectories stay inside the
bundle, links have plain names, and the names of modules are made of name characters.
-/
namespace BundleWright

namespace Checked

variable {α β : Type} {x : Checked α} {a : α} {b : β} {read : Datum → Checked α} {j : Datum}

theorem andThen_eq_sound_iff {f : α → Checked β} :
    x.andThen f = .sound b ↔ ∃ a, x = .sound a ∧ f a = .sound b := by
  cases x <;> simp [andThen]

theorem under_eq_sound_iff {key : String} : x.under key = .sound a ↔ x = .sound a := by
  cases x <;> simp [under]

theorem fail_ne_sound (fault : Fault) (d : Datum) : fail fault d ≠ .sound a := by simp [fail]

theorem eq_or_exists_of_field {fs : Fields} {key : String} {default : α}
    (h : field fs key default read = .sound a) : a = default ∨ ∃ j, read j = .sound a := by
  unfold field at h
  split at h
  · cases h
    exact .inl rfl
  · next j _ => exact .inr ⟨j, under_eq_sound_iff.1 h⟩

theorem exists_of_required {fs : Fields} {key : String} (h : required fs key read = .sound a) :
    ∃ j, read j = .sound a := by
  unfold required at h
  split at h
  · rw [under_eq_sound_iff] at h
    exact absurd h (fail_ne_sound _ _)
  · next j _ => exact ⟨j, under_eq_sound_iff.1 h⟩

theorem noOthers_eq_sound_iff {fs : Fields} {known : List String} :
    noOthers fs known = .sound () ↔ ∀ k ∈ fs.keys, ∃ s ∈ known, k = .str s := by
  have hf : ∀ f, foreignFlaw? known f = none ↔ ∃ s ∈ known, f.1 = .str s := by
    rintro ⟨k, d⟩
    cases k <;> simp [foreignFlaw?]
  have hn : noOthers fs known = .sound () ↔ fs.filterMap (foreignFlaw? known) = [] := by
    unfold noOthers
    cases fs.filterMap (foreignFlaw? known) <;> simp
  rw [hn, List.filterMap_eq_nil_iff]
  simp [hf, Fields.keys]

theorem exists_of_mem_items {js : List Datum} {start : Nat} {as : List α}
    (h : all (items read start js) = .sound as) (ha : a ∈ as) : ∃ j, read j = .sound a := by
  induction js generalizing start as with
  | nil =>
    cases h
    simp at ha
  | cons j js ih =>
    obtain ⟨f, rest, hf, hrest, rfl⟩ := seq_eq_sound_iff.1 h
    obtain ⟨c, hc, rfl⟩ := map_eq_sound_iff.1 hf
    rcases List.mem_cons.1 ha with rfl | ha
    · exact ⟨j, under_eq_sound_iff.1 hc⟩
    · exact ih hrest ha

theorem exists_of_mem_list {d : Datum} {as : List α} (h : list read d = .sound as) (ha : a ∈ as) :
    ∃ j, read j = .sound a := by
  unfold list at h
  split at h
  · exact exists_of_mem_items h ha
  · exact absurd h (fail_ne_sound _ _)

end Checked

namespace Declaration

open Checked

section Objects

variable {α : Type} {known : Fields → List String} {read : Fields → Checked α} {j : Datum} {a : α}

theorem readObject_eq_sound_iff : readObject known read j = .sound a ↔
    ∃ fs, j = .obj fs ∧ read fs = .sound a ∧ noOthers fs (known fs) = .sound () := by
  constructor
  · intro h
    obtain ⟨fs, hfs, h⟩ := andThen_eq_sound_iff.1 h
    obtain ⟨f, ⟨⟩, hf, hk, rfl⟩ := seq_eq_sound_iff.1 h
    obtain ⟨c, hc, rfl⟩ := map_eq_sound_iff.1 hf
    cases j with
    | obj _ =>
      cases hfs
      exact ⟨fs, rfl, hc, hk⟩
    | _ => exact absurd hfs (fail_ne_sound _ _)
  · rintro ⟨fs, rfl, hr, hk⟩
    change ((fun a _ => a) <$> read fs <*> noOthers fs (known fs)) = _
    rw [hr, hk, map_sound, seq_sound]

theorem exists_of_readObject (h : readObject known read j = .sound a) :
    ∃ fs, read fs = .sound a := by
  obtain ⟨fs, _, hr, _⟩ := readObject_eq_sound_iff.1 h
  exact ⟨fs, hr⟩

end Objects

def IsSubdir? (dir : Option String) : Prop := ∀ d ∈ dir, Path.isRelativeSubdir d = true

theorem readLabel_eq_sound_iff {j : Datum} {s : String} : readLabel j = .sound s ↔
    string j = .sound s ∧ 1 ≤ s.length ∧ s.length ≤ longestName := by
  refine andThen_eq_sound_iff.trans ⟨?_, ?_⟩
  · rintro ⟨a, ha, h⟩
    split at h
    · exact absurd h (fail_ne_sound _ _)
    · split at h
      · exact absurd h (fail_ne_sound _ _)
      · cases h
        exact ⟨ha, by omega, by omega⟩
  · rintro ⟨hs, hmin, hmax⟩
    exact ⟨s, hs, by rw [if_neg (by omega), if_neg (by omega)]⟩

theorem readName_eq_sound_iff {j : Datum} {s : String} : readName j = .sound s ↔
    readLabel j = .sound s ∧ matchesName s.toList = true := by
  refine andThen_eq_sound_iff.trans ⟨?_, ?_⟩
  · rintro ⟨a, ha, h⟩
    split at h
    · next hm =>
      cases h
      exact ⟨ha, hm⟩
    · exact absurd h (fail_ne_sound _ _)
  · rintro ⟨hs, hm⟩
    exact ⟨s, hs, if_pos hm⟩

/-- The end of a line may stand behind the characters of a name. -/
theorem matchesName_iff {cs : List Char} : matchesName cs = true ↔
    ∃ body, (cs = body ∨ cs = body ++ ['\n']) ∧ body ≠ [] ∧ ∀ c ∈ body, isNameChar c = true := by
  have hbody {cs : List Char} : (!cs.isEmpty && cs.all isNameChar) = true ↔
      cs ≠ [] ∧ ∀ c ∈ cs, isNameChar c = true := by simp
  unfold matchesName
  split
  · next hl =>
    obtain ⟨init, rfl⟩ := List.getLast?_eq_some_iff.1 hl
    rw [List.dropLast_concat, hbody]
    refine ⟨fun h => ⟨init, .inr rfl, h⟩, ?_⟩
    rintro ⟨body, hcs | hcs, h⟩
    · exact absurd (h.2 '\n' (hcs ▸ List.mem_concat_self)) (by decide)
    · rwa [List.append_cancel_right hcs]
  · next hl =>
    rw [hbody]
    refine ⟨fun h => ⟨cs, .inl rfl, h⟩, ?_⟩
    rintro ⟨body, rfl | rfl, h⟩
    · exact h
    · exact absurd List.getLast?_concat hl

theorem matchesName_of_readName {j : Datum} {s : String} (h : readName j = .sound s) :
    matchesName s.toList = true :=
  (readName_eq_sound_iff.1 h).2

theorem isSubdir?_of_readSubdir {j : Datum} {dir : Option String} (h : readSubdir j = .sound dir) :
    IsSubdir? dir := by
  obtain ⟨a, _, h⟩ := andThen_eq_sound_iff.1 h
  split at h
  · cases h
    simp [IsSubdir?]
  · split at h
    · next hd =>
      cases h
      simpa [IsSubdir?] using hd
    · exact absurd h (fail_ne_sound _ _)

theorem isPlainName_of_readSymlinks {j : Datum} {names : List String}
    (h : readSymlinks j = .sound names) : ∀ s ∈ names, Path.isPlainName s = true := by
  obtain ⟨a, _, h⟩ := andThen_eq_sound_iff.1 h
  split at h
  · next hn =>
    cases h
    simpa using hn
  · exact absurd h (fail_ne_sound _ _)

def Keeps : Declaration → Prop
  | .library d => matchesName d.name.toList = true ∧ IsSubdir? d.relativeInstallPath
  | .binary d => matchesName d.name.toList = true ∧ IsSubdir? d.relativeInstallPath ∧
      ∀ s ∈ d.symlinks, Path.isPlainName s = true
  | .script d => matchesName d.name.toList = true ∧ IsSubdir? d.subDir
  | .prebuilt d => matchesName d.name.toList = true ∧ IsSubdir? d.subDir
  | .java d => matchesName d.name.toList = true
  | .key d => matchesName d.name.toList = true
  | .certificate d => matchesName d.name.toList = true
  | .bundle d => matchesName d.name.toList = true
  | .defaults _ => True

theorem name_of_required {fs : Fields} {s : String} (h : required fs "name" readName = .sound s) :
    matchesName s.toList = true := by
  obtain ⟨j, hj⟩ := exists_of_required h
  exact matchesName_of_readName hj

theorem isSubdir?_of_field {fs : Fields} {key : String} {dir : Option String}
    (h : field fs key none readSubdir = .sound dir) : IsSubdir? dir := by
  rcases eq_or_exists_of_field h with rfl | ⟨j, hj⟩
  · simp [IsSubdir?]
  · exact isSubdir?_of_readSubdir hj

theorem isPlainName_of_field {fs : Fields} {key : String} {names : List String}
    (h : field fs key [] readSymlinks = .sound names) :
    ∀ s ∈ names, Path.isPlainName s = true := by
  rcases eq_or_exists_of_field h with rfl | ⟨j, hj⟩
  · simp
  · exact isPlainName_of_readSymlinks hj

section Readers

variable {j : Datum}

theorem keeps_of_readLibrary {flavor : LibraryFlavor} {d : LibraryDecl}
    (h : readLibrary flavor j = .sound d) : Keeps (.library d) := by
  obtain ⟨fs, h0⟩ := exists_of_readObject h
  obtain ⟨_, _, h1, _, rfl⟩ := seq_eq_sound_iff.1 h0
  obtain ⟨_, _, h2, _, rfl⟩ := seq_eq_sound_iff.1 h1
  obtain ⟨_, _, h3, _, rfl⟩ := seq_eq_sound_iff.1 h2
  obtain ⟨_, _, h4, _, rfl⟩ := seq_eq_sound_iff.1 h3
  obtain ⟨_, _, h5, hdir, rfl⟩ := seq_eq_sound_iff.1 h4
  obtain ⟨_, _, h6, _, rfl⟩ := seq_eq_sound_iff.1 h5
  obtain ⟨_, hname, rfl⟩ := map_eq_sound_iff.1 h6
  exact ⟨name_of_required hname, isSubdir?_of_field hdir⟩

theorem keeps_of_readBinary {d : BinaryDecl} (h : readBinary j = .sound d) :
    Keeps (.binary d) := by
  obtain ⟨fs, h0⟩ := exists_of_readObject h
  obtain ⟨_, _, h1, _, rfl⟩ := seq_eq_sound_iff.1 h0
  obtain ⟨_, _, h2, _, rfl⟩ := seq_eq_sound_iff.1 h1
  obtain ⟨_, _, h3, hdir, rfl⟩ := seq_eq_sound_iff.1 h2
  obtain ⟨_, _, h4, hlinks, rfl⟩ := seq_eq_sound_iff.1 h3
  obtain ⟨_, _, h5, _, rfl⟩ := seq_eq_sound_iff.1 h4
  obtain ⟨_, hname, rfl⟩ := map_eq_sound_iff.1 h5
  exact ⟨name_of_required hname, isSubdir?_of_field hdir, isPlainName_of_field hlinks⟩

theorem keeps_of_readScript {d : ScriptDecl} (h : readScript j = .sound d) :
    Keeps (.script d) := by
  obtain ⟨fs, h0⟩ := exists_of_readObject h
  obtain ⟨_, _, h1, _, rfl⟩ := seq_eq_sound_iff.1 h0
  obtain ⟨_, _, h2, hdir, rfl⟩ := seq_eq_sound_iff.1 h1
  obtain ⟨_, _, h3, _, rfl⟩ := seq_eq_sound_iff.1 h2
  obtain ⟨_, hname, rfl⟩ := map_eq_sound_iff.1 h3
  exact ⟨name_of_required hname, isSubdir?_of_field hdir⟩

theorem keeps_of_readPrebuilt {d : PrebuiltDecl} (h : readPrebuilt j = .sound d) :
    Keeps (.prebuilt d) := by
  obtain ⟨fs, h0⟩ := exists_of_readObject h
  obtain ⟨_, _, h1, _, rfl⟩ := seq_eq_sound_iff.1 h0
  obtain ⟨_, _, h2, hdir, rfl⟩ := seq_eq_sound_iff.1 h1
  obtain ⟨_, _, h3, _, rfl⟩ := seq_eq_sound_iff.1 h2
  obtain ⟨_, hname, rfl⟩ := map_eq_sound_iff.1 h3
  exact ⟨name_of_required hname, isSubdir?_of_field hdir⟩

theorem keeps_of_readJava {d : JavaDecl} (h : readJava j = .sound d) :
    Keeps (.java d) := by
  obtain ⟨fs, h0⟩ := exists_of_readObject h
  obtain ⟨_, _, h1, _, rfl⟩ := seq_eq_sound_iff.1 h0
  obtain ⟨_, _, h2, _, rfl⟩ := seq_eq_sound_iff.1 h1
  obtain ⟨_, _, h3, _, rfl⟩ := seq_eq_sound_iff.1 h2
  obtain ⟨_, hname, rfl⟩ := map_eq_sound_iff.1 h3
  exact name_of_required hname

theorem keeps_of_readKey {d : KeyDecl} (h : readKey j = .sound d) :
    Keeps (.key d) := by
  obtain ⟨fs, h0⟩ := exists_of_readObject h
  obtain ⟨_, _, h1, _, rfl⟩ := seq_eq_sound_iff.1 h0
  obtain ⟨_, _, h2, _, rfl⟩ := seq_eq_sound_iff.1 h1
  obtain ⟨_, _, h3, _, rfl⟩ := seq_eq_sound_iff.1 h2
  obtain ⟨_, hname, rfl⟩ := map_eq_sound_iff.1 h3
  exact name_of_required hname

theorem keeps_of_readCertificate {d : CertificateDecl} (h : readCertificate j = .sound d) :
    Keeps (.certificate d) := by
  obtain ⟨fs, h0⟩ := exists_of_readObject h
  obtain ⟨_, _, h1, _, rfl⟩ := seq_eq_sound_iff.1 h0
  obtain ⟨_, hname, rfl⟩ := map_eq_sound_iff.1 h1
  exact name_of_required hname

structure ReadFrom (b : Bundle) (fs : Fields) : Prop where
  flavor : field fs "type" .apex (readWord BundleFlavor.word [.apex, .test]) = .sound b.flavor
  name : required fs "name" readName = .sound b.name
  defaults : field fs "defaults" [] strings = .sound b.defaults

theorem readBundle_eq_sound_iff {b : Bundle} : readBundle j = .sound b ↔
    ∃ fs, j = .obj fs ∧ (readProperties fs = .sound b.properties ∧ ReadFrom b fs) ∧
      noOthers fs ("type" :: "name" :: "defaults" :: propertyKeys) = .sound () := by
  refine readObject_eq_sound_iff.trans (exists_congr fun fs => and_congr_right fun _ =>
    and_congr_left fun _ => ?_)
  simp only [seq_eq_sound_iff, map_eq_sound_iff]
  constructor
  · rintro ⟨_, _, ⟨_, _, ⟨_, _, ⟨_, hp, rfl⟩, hf, rfl⟩, hn, rfl⟩, hd, rfl⟩
    exact ⟨hp, hf, hn, hd⟩
  · rintro ⟨hp, hf, hn, hd⟩
    exact ⟨_, _, ⟨_, _, ⟨_, _, ⟨_, hp, rfl⟩, hf, rfl⟩, hn, rfl⟩, hd, rfl⟩

theorem keeps_of_readBundle {d : Bundle} (h : readBundle j = .sound d) : Keeps (.bundle d) := by
  obtain ⟨_, _, ⟨_, hrest⟩, _⟩ := readBundle_eq_sound_iff.1 h
  exact name_of_required hrest.name

theorem keeps_of_reader {word : String} {r : Datum → Checked Declaration} {d : Declaration}
    (hr : reader? word = some r) (h : r j = .sound d) : d.Keeps := by
  unfold reader? at hr
  split at hr
  all_goals cases hr
  all_goals obtain ⟨_, hd, rfl⟩ := map_eq_sound_iff.1 h
  · exact keeps_of_readLibrary hd
  · exact keeps_of_readLibrary hd
  · exact keeps_of_readLibrary hd
  · exact keeps_of_readBinary hd
  · exact keeps_of_readScript hd
  · exact keeps_of_readJava hd
  · exact keeps_of_readPrebuilt hd
  · exact keeps_of_readKey hd
  · exact keeps_of_readCertificate hd
  · exact keeps_of_readBundle hd
  · exact keeps_of_readBundle hd
  · trivial

theorem exists_reader_of_read {d : Declaration} (h : read j = .sound d) :
    ∃ word r, reader? word = some r ∧ r j = .sound d := by
  unfold read at h
  split at h
  · split at h
    · exact absurd h (fail_ne_sound _ _)
    · next tag _ =>
      cases tag with
      | scalar sc =>
        cases sc with
        | str word =>
          cases hr : reader? word with
          | none => simp [hr, fail] at h
          | some r =>
            simp only [hr, Option.map_some, Option.getD_some, under_eq_sound_iff] at h
            exact ⟨word, r, hr, h⟩
        | _ => exact absurd h (fail_ne_sound _ _)
      | _ => exact absurd h (fail_ne_sound _ _)
  · exact absurd h (fail_ne_sound _ _)
  · exact absurd h (fail_ne_sound _ _)

theorem keeps_of_read {d : Declaration} (h : read j = .sound d) : d.Keeps := by
  obtain ⟨_, _, hr, h⟩ := exists_reader_of_read h
  exact keeps_of_reader hr h

end Readers

/-- Every declaration of a document is read from an entry of its own. -/
theorem exists_read_of_readDocument {doc : Datum} {ds : List Declaration}
    (h : readDocument doc = .sound ds) {d : Declaration} (hd : d ∈ ds) :
    ∃ j, read j = .sound d := by
  obtain ⟨fs, h⟩ := exists_of_readObject h
  rcases eq_or_exists_of_field h with rfl | ⟨j, hj⟩
  · simp at hd
  · exact exists_of_mem_list hj hd

theorem keeps_of_readDocument {doc : Datum} {ds : List Declaration}
    (h : readDocument doc = .sound ds) : ∀ d ∈ ds, d.Keeps := by
  intro d hd
  obtain ⟨j, hj⟩ := exists_read_of_readDocument h hd
  exact keeps_of_read hj

end Declaration

end BundleWright
