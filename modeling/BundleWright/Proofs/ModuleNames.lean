import BundleWright.Proofs.Declared
import BundleWright.Proofs.Text.Words
/-!
The names of modules. Main statement: whatever else a declaration says, nothing is wrong with its
name exactly when that is 1 to 255 characters of the alphabet of names, or less than 255 of them
before the end of a line; and only without that end can it be listed as a dependency.
-/
namespace BundleWright

namespace Checked

variable {α β : Type} {x : Checked α} {f : Checked (α → β)} {g : α → β} {key k : String}

def flaws : Checked α → List Flaw
  | .sound _ => []
  | .flawed e => e

@[simp] theorem flaws_map : (g <$> x).flaws = x.flaws := by
  cases x <;> rfl

@[simp] theorem flaws_seq : (f <*> x).flaws = f.flaws ++ x.flaws := by
  cases f <;> cases x <;> simp [Seq.seq, Checked.seq, flaws]

@[simp] theorem flaws_under : (x.under key).flaws = x.flaws.map (Flaw.under key) := by
  cases x <;> rfl

/-- Whether nothing is wrong at a place or below it. A key that is no text is a fault of the object
it is in, whatever it is written like. -/
def FlawlessAt (path : List String) (x : Checked α) : Prop :=
  ∀ f ∈ x.flaws, path <+: f.path → f.fault = .invalidKey

theorem flawlessAt_map_iff {path : List String} :
    (g <$> x).FlawlessAt path ↔ x.FlawlessAt path := by
  simp [FlawlessAt]

theorem flawlessAt_seq_iff {path : List String} :
    (f <*> x).FlawlessAt path ↔ f.FlawlessAt path ∧ x.FlawlessAt path := by
  rw [FlawlessAt, flaws_seq, List.forall_mem_append]
  rfl

theorem flawlessAt_under_iff {path : List String} :
    (x.under key).FlawlessAt (key :: path) ↔ x.FlawlessAt path := by
  simp [FlawlessAt, Flaw.under]

theorem flawlessAt_under_of_ne (h : k ≠ key) : (x.under k).FlawlessAt [key] := by
  simp [FlawlessAt, Flaw.under, h.symm]

variable {fs : Fields} {read : Datum → Checked α}

theorem flawlessAt_field {default : α} (h : k ≠ key) :
    (field fs k default read).FlawlessAt [key] := by
  unfold field
  split
  · simp [FlawlessAt, flaws]
  · exact flawlessAt_under_of_ne h

theorem flawlessAt_required (h : k ≠ key) : (required fs k read).FlawlessAt [key] := by
  unfold required
  split
  · exact flawlessAt_under_of_ne h
  · exact flawlessAt_under_of_ne h

theorem flaws_noOthers {known : List String} :
    (noOthers fs known).flaws = fs.filterMap (foreignFlaw? known) := by
  unfold noOthers
  cases fs.filterMap (foreignFlaw? known) <;> rfl

theorem flawlessAt_noOthers {known : List String} (h : key ∈ known) :
    (noOthers fs known).FlawlessAt [key] := by
  intro f hf hkey
  rw [flaws_noOthers] at hf
  obtain ⟨⟨k, d⟩, -, hf⟩ := List.mem_filterMap.1 hf
  cases k with
  | str k =>
    simp only [foreignFlaw?] at hf
    split at hf
    · simp at hf
    · next hk =>
      cases hf
      simp only [List.cons_prefix_cons, List.nil_prefix, and_true] at hkey
      subst hkey
      exact absurd (List.contains_iff_mem.2 h) hk
  | _ =>
    cases hf
    rfl

def IsWhole (j : Datum) (x : Checked α) : Prop :=
  (∃ a, x = .sound a) ∨ ∃ fault, fault ≠ .invalidKey ∧ x = fail fault j

variable {j : Datum}

theorem IsWhole.andThen {f : α → Checked β} (h : x.IsWhole j) (hf : ∀ a, (f a).IsWhole j) :
    (x.andThen f).IsWhole j := by
  rcases h with ⟨a, rfl⟩ | ⟨fault, hne, rfl⟩
  · exact hf a
  · exact .inr ⟨fault, hne, rfl⟩

theorem isWhole_sound (a : α) : (Checked.sound a).IsWhole j := .inl ⟨a, rfl⟩

theorem isWhole_fail {fault : Fault} (h : fault ≠ .invalidKey) :
    (fail fault j : Checked α).IsWhole j := .inr ⟨fault, h, rfl⟩

theorem isWhole_string (j : Datum) : (string j).IsWhole j := by
  unfold string
  split
  · exact isWhole_sound _
  · exact isWhole_fail (by simp)
  · split
    · exact isWhole_sound _
    · exact isWhole_fail (by simp)
  · exact isWhole_fail (by simp)

theorem flawlessAt_required_iff (hj : fs.get? key = some j) (h : (read j).IsWhole j) :
    (required fs key read).FlawlessAt [key] ↔ ∃ a, read j = .sound a := by
  unfold required
  rw [hj]
  change ((read j).under key).FlawlessAt [key] ↔ _
  rw [flawlessAt_under_iff]
  rcases h with ⟨a, ha⟩ | ⟨fault, hne, hf⟩
  · simp [ha, FlawlessAt, flaws]
  · simp [hf, FlawlessAt, flaws, fail, hne]

theorem flawlessAt_readObject_iff {known : Fields → List String} {readFields : Fields → Checked α}
    (h : key ∈ known fs) : (Declaration.readObject known readFields (.obj fs)).FlawlessAt [key] ↔
      (readFields fs).FlawlessAt [key] := by
  change ((fun a _ => a) <$> readFields fs <*> noOthers fs (known fs)).FlawlessAt [key] ↔ _
  rw [flawlessAt_seq_iff, flawlessAt_map_iff]
  exact and_iff_left (flawlessAt_noOthers h)

end Checked

namespace Declaration

open Checked

variable {fs : Fields} {j : Datum} {s word : String} {c : Char}

def InAlphabet (c : Char) : Prop :=
  ('a' ≤ c ∧ c ≤ 'z') ∨ ('A' ≤ c ∧ c ≤ 'Z') ∨ ('0' ≤ c ∧ c ≤ '9') ∨ c ∈ ['_', '.', '-', '+', '@']

instance (c : Char) : Decidable (InAlphabet c) := inferInstanceAs (Decidable (_ ∨ _ ∨ _ ∨ _))

def IsName (s : String) : Prop :=
  1 ≤ s.length ∧ s.length ≤ 255 ∧ ∀ c ∈ s.toList, InAlphabet c

theorem isNameChar_iff : isNameChar c = true ↔ InAlphabet c := by
  change (decide ('A' ≤ c ∧ c ≤ 'Z') || ('a' ≤ c && c ≤ 'z') || ('0' ≤ c && c ≤ '9') ||
    ['_', '.', '-', '+', '@'].contains c) = true ↔ _
  simp only [InAlphabet, Bool.or_eq_true, Bool.and_eq_true, decide_eq_true_eq,
    List.contains_iff_mem]
  rw [or_assoc, or_assoc, or_left_comm]

theorem toNat_of_inAlphabet (h : InAlphabet c) : 33 ≤ c.toNat ∧ c.toNat ≤ 122 := by
  simp only [InAlphabet, Char.le_def, UInt32.le_iff_toNat_le] at h
  change (97 ≤ c.toNat ∧ c.toNat ≤ 122) ∨ (65 ≤ c.toNat ∧ c.toNat ≤ 90) ∨
    (48 ≤ c.toNat ∧ c.toNat ≤ 57) ∨ c ∈ ['_', '.', '-', '+', '@'] at h
  rcases h with h | h | h | h
  · omega
  · omega
  · omega
  · simp only [List.mem_cons, List.not_mem_nil, or_false] at h
    rcases h with rfl | rfl | rfl | rfl | rfl <;> decide

theorem not_isBlank_of_inAlphabet (h : InAlphabet c) : Text.isBlank c = false := by
  have hc := toNat_of_inAlphabet h
  simp [Text.isBlank]
  omega

instance (s : String) : Decidable (IsName s) :=
  have : Decidable (∀ c ∈ s.toList, InAlphabet c) := List.decidableBAll _ _
  inferInstanceAs (Decidable (_ ∧ _ ∧ _))

theorem ne_empty_iff : s ≠ "" ↔ 1 ≤ s.length := by
  rw [Nat.one_le_iff_ne_zero, ne_eq, ne_eq, String.length_eq_zero_iff]

theorem isName_iff : IsName s ↔ 1 ≤ s.length ∧ s.length ≤ longestName ∧
    ∀ c ∈ s.toList, isNameChar c = true := by
  simp only [IsName, isNameChar_iff]
  rfl

theorem not_hasBlank_of_isName (h : IsName s) : ¬Text.HasBlank s := by
  intro hb
  obtain ⟨c, hc, hb⟩ := Text.hasBlank_iff.1 hb
  rw [not_isBlank_of_inAlphabet (h.2.2 c hc)] at hb
  exact Bool.noConfusion hb

theorem dependencyFault?_eq_none_iff : dependencyFault? s = none ↔ s ≠ "" ∧ ¬Text.HasBlank s := by
  have hany : s.toList.any Text.isBlank = true ↔ Text.HasBlank s := Iff.rfl
  unfold dependencyFault?
  split
  · next hall =>
    refine iff_of_false (by simp) fun ⟨hne, hb⟩ => ?_
    obtain ⟨c, hc⟩ := List.exists_mem_of_ne_nil s.toList (by simpa using hne)
    exact hb (Text.hasBlank_iff.2 ⟨c, hc, List.all_eq_true.1 hall c hc⟩)
  · next hall =>
    split
    · next hb => exact iff_of_false (by simp) fun h => h.2 (hany.1 hb)
    · next hb =>
      refine iff_of_true rfl ⟨?_, hb⟩
      rintro rfl
      simp at hall

/-- An accepted name is one that was meant, or one before the end of a line. -/
theorem readName_eq_sound_iff_isName : readName j = .sound s ↔ Checked.string j = .sound s ∧
    (IsName s ∨ ∃ t, s = t ++ "\n" ∧ IsName t ∧ t.length < 255) := by
  rw [readName_eq_sound_iff, readLabel_eq_sound_iff, matchesName_iff, and_assoc]
  refine and_congr_right fun _ => ?_
  have hbreak (t : String) : (t ++ "\n").length = t.length + 1 := by
    rw [String.length_append]
    rfl
  constructor
  · rintro ⟨⟨hmin, hmax⟩, body, hs | hs, hne, hall⟩
    · exact .inl (isName_iff.2 ⟨hmin, hmax, hs ▸ hall⟩)
    · obtain rfl : s = String.ofList body ++ "\n" := String.toList_inj.1 (by simp [hs])
      rw [hbreak, longestName] at hmax
      have hpos : 1 ≤ (String.ofList body).length := ne_empty_iff.1 (by simpa using hne)
      have hlength : (String.ofList body).length ≤ longestName := by
        rw [longestName]
        omega
      exact .inr ⟨_, rfl, isName_iff.2 ⟨hpos, hlength, by simpa using hall⟩, by omega⟩
  · rintro (h | ⟨t, rfl, h, hmax⟩)
    · obtain ⟨hmin, hmax, hall⟩ := isName_iff.1 h
      have hne : s.toList ≠ [] := by simpa using ne_empty_iff.2 hmin
      exact ⟨⟨hmin, hmax⟩, s.toList, .inl rfl, hne, hall⟩
    · obtain ⟨hmin, -, hall⟩ := isName_iff.1 h
      have hne : t.toList ≠ [] := by simpa using ne_empty_iff.2 hmin
      rw [hbreak, longestName]
      exact ⟨⟨by omega, by omega⟩, t.toList, .inr (by simp), hne, hall⟩

theorem isWhole_readName (j : Datum) : (readName j).IsWhole j := by
  refine ((isWhole_string j).andThen fun s => ?_).andThen fun s => ?_
  · split
    · exact isWhole_fail (by simp)
    · split
      · exact isWhole_fail (by simp)
      · exact isWhole_sound s
  · split
    · exact isWhole_sound s
    · exact isWhole_fail (by simp)

theorem flawlessAt_name_iff {read : Datum → Checked Declaration} (hr : reader? word = some read)
    (hne : word ≠ "apex_defaults") : (read (.obj fs)).FlawlessAt ["name"] ↔
      (required fs "name" readName).FlawlessAt ["name"] := by
  unfold reader? at hr
  split at hr
  case h_12 => exact absurd rfl hne
  case h_13 => cases hr
  all_goals
    cases hr
    simp [readLibrary, readBinary, readScript, readJava, readPrebuilt, readKey, readCertificate,
      readBundle, readProperties, flawlessAt_map_iff, flawlessAt_seq_iff, flawlessAt_field,
      flawlessAt_required, flawlessAt_readObject_iff]

theorem flawlessAt_read_iff (htype : fs.get? "type" = some (.str word))
    (hword : (reader? word).isSome = true) (hne : word ≠ "apex_defaults")
    (hname : fs.get? "name" = some j) :
    (read (.obj fs)).FlawlessAt [word, "name"] ↔ ∃ s, readName j = .sound s := by
  obtain ⟨r, hr⟩ := Option.isSome_iff_exists.1 hword
  have hread : read (.obj fs) = (r (.obj fs)).under word := by
    simp [read, htype, hr]
  rw [hread, flawlessAt_under_iff, flawlessAt_name_iff hr hne,
    flawlessAt_required_iff hname (isWhole_readName j)]

/-- Nothing is wrong with what a module is called exactly when that is a name, or a name of less than
255 characters before the end of a line; only the first can be listed as a dependency. -/
theorem name_accepted_iff (htype : fs.get? "type" = some (.str word))
    (hword : (reader? word).isSome = true) (hne : word ≠ "apex_defaults")
    (hname : fs.get? "name" = some j) :
    ((read (.obj fs)).FlawlessAt [word, "name"] ↔ ∃ s, Checked.string j = .sound s ∧
      (IsName s ∨ ∃ t, s = t ++ "\n" ∧ IsName t ∧ t.length < 255)) ∧
    ∀ s, Checked.string j = .sound s → (read (.obj fs)).FlawlessAt [word, "name"] →
      (dependencyFault? s = none ↔ IsName s) ∧ (Text.HasBlank s ↔ ¬IsName s) := by
  have haccepted := flawlessAt_read_iff htype hword hne hname
  refine ⟨haccepted.trans (exists_congr fun s => readName_eq_sound_iff_isName), ?_⟩
  intro s hs hflawless
  obtain ⟨a, ha⟩ := haccepted.1 hflawless
  obtain ⟨hs', h⟩ := readName_eq_sound_iff_isName.1 ha
  obtain rfl : s = a := by
    cases hs.symm.trans hs'
    rfl
  rw [dependencyFault?_eq_none_iff]
  rcases h with h | ⟨t, rfl, -, -⟩
  · have hb := not_hasBlank_of_isName h
    exact ⟨iff_of_true ⟨ne_empty_iff.2 h.1, hb⟩ h, iff_of_false hb (not_not_intro h)⟩
  · have hb : Text.HasBlank (t ++ "\n") := Text.hasBlank_append_iff.2 (.inr (by decide))
    have hn : ¬IsName (t ++ "\n") := fun h => not_hasBlank_of_isName h hb
    exact ⟨iff_of_false (fun h => h.2 hb) hn, iff_of_true hb hn⟩

def misdeclared : Fields := [("type", .str "cc_library"), ("name", .str "libc++"),
  ("stubs", .str "29"), ("color", .str "red")]

theorem name_accepted_misdeclared : (∃ e, read (.obj misdeclared) = .flawed e) ∧
    (read (.obj misdeclared)).FlawlessAt ["cc_library", "name"] ∧
    dependencyFault? "libc++" = none := by
  have h := name_accepted_iff (show misdeclared.get? "type" = some (.str "cc_library") from rfl)
    (by decide) (by decide) rfl
  have hname : IsName "libc++" := by decide
  have haccepted := h.1.2 ⟨"libc++", rfl, .inl hname⟩
  exact ⟨⟨_, rfl⟩, haccepted, (h.2 _ rfl haccepted).1.2 hname⟩

def lineEnded : Fields := [("type", .str "apex"), ("name", .str "a\n")]

theorem name_accepted_lineEnded : read (.obj lineEnded) = .sound (.bundle { name := "a\n" }) ∧
    ¬IsName "a\n" ∧ Text.HasBlank "a\n" ∧ dependencyFault? "a\n" ≠ none :=
  ⟨rfl, by decide, by decide, by decide⟩

end Declaration

end BundleWright
