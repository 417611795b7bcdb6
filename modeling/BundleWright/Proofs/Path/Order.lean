import BundleWright.Proofs.Path.Text
/-!
Paths above and below one another. Main statements: going up from a path meets the paths whose
components begin it, and order below one directory is order below every other.
-/
namespace BundleWright.Path

/-- Whether `q` is reached from `p` by at least one more component. -/
def Above (p q : Path) : Prop := p.root = q.root ∧ p.parts <+: q.parts ∧ p ≠ q

instance (p q : Path) : Decidable (Above p q) := inferInstanceAs (Decidable (_ ∧ _ ∧ _))

theorem parent_eq_self_iff {p : Path} : p.parent = p ↔ p.parts = [] := by
  simp only [ext_iff', parent_root, parent_parts, true_and]
  constructor
  · intro h
    have hlen := congrArg List.length h
    rw [List.length_dropLast] at hlen
    exact List.length_eq_zero_iff.1 (by omega)
  · intro h
    rw [h, List.dropLast_nil]

theorem text_mem_iff {p : Path} : p.text ∈ [".", "/", "//"] ↔ p.parts = [] := by
  constructor
  · intro h
    have hread : ∀ t ∈ [".", "/", "//"], (ofString t).parts = [] := by decide +kernel
    simpa using hread p.text h
  · intro h
    rw [text, h]
    cases p.root <;> decide

theorem lineage_of_nil {p : Path} (h : p.parts = []) : p.lineage = [p] := by
  rw [lineage]
  simp [h]

theorem lineage_of_ne_nil {p : Path} (h : p.parts ≠ []) : p.lineage = p :: p.parent.lineage := by
  rw [lineage, if_neg h]

theorem lineage_ne_nil (p : Path) : p.lineage ≠ [] := by
  rw [lineage]
  simp

theorem prefix_iff_dropLast {l m : List String} (h : m ≠ []) :
    l <+: m ↔ l = m ∨ l <+: m.dropLast := by
  have hm := List.dropLast_concat_getLast h
  constructor
  · intro hl
    rw [← hm] at hl
    rcases List.prefix_concat_iff.1 hl with he | he
    · exact .inl (by rw [he, hm])
    · exact .inr he
  · rintro (rfl | hl)
    · exact List.prefix_refl _
    · exact hl.trans (List.dropLast_prefix _)

theorem mem_lineage_iff {p q : Path} :
    p ∈ q.lineage ↔ p.root = q.root ∧ p.parts <+: q.parts := by
  induction hn : q.parts.length generalizing q with
  | zero =>
    have hq : q.parts = [] := List.length_eq_zero_iff.1 hn
    rw [lineage_of_nil hq]
    simp [hq, ext_iff']
  | succ n ih =>
    have hq : q.parts ≠ [] := List.ne_nil_of_length_eq_add_one hn
    have hp := ih (q := q.parent) (by simp [hn])
    rw [lineage_of_ne_nil hq, List.mem_cons, hp, prefix_iff_dropLast hq, ext_iff']
    simp only [parent_root, parent_parts]
    exact and_or_left.symm

theorem mem_lineage_iff_above {p q : Path} : p ∈ q.lineage ↔ p = q ∨ Above p q := by
  rw [mem_lineage_iff]
  constructor
  · rintro ⟨hr, hs⟩
    by_cases he : p = q
    · exact .inl he
    · exact .inr ⟨hr, hs, he⟩
  · rintro (rfl | ⟨hr, hs, _⟩)
    · exact ⟨rfl, List.prefix_refl _⟩
    · exact ⟨hr, hs⟩

theorem mem_dropLast_lineage_iff {p q : Path} :
    p ∈ q.lineage.dropLast ↔ p.root = q.root ∧ p.parts <+: q.parts ∧ p.parts ≠ [] := by
  induction hn : q.parts.length generalizing q with
  | zero =>
    have hq : q.parts = [] := List.length_eq_zero_iff.1 hn
    rw [lineage_of_nil hq]
    simp [hq]
  | succ n ih =>
    have hq : q.parts ≠ [] := List.ne_nil_of_length_eq_add_one hn
    have hp := ih (q := q.parent) (by simp [hn])
    rw [lineage_of_ne_nil hq, List.dropLast_cons_of_ne_nil (lineage_ne_nil _), List.mem_cons, hp,
      prefix_iff_dropLast hq, ext_iff']
    simp only [parent_root, parent_parts]
    constructor
    · rintro (⟨hr, hs⟩ | ⟨hr, hs, he⟩)
      · exact ⟨hr, .inl hs, by rw [hs]; exact hq⟩
      · exact ⟨hr, .inr hs, he⟩
    · rintro ⟨hr, hs | hs, he⟩
      · exact .inl ⟨hr, hs⟩
      · exact .inr ⟨hr, hs, he⟩

/-- A path lies above another one if it is met on the way up from the other's parent. -/
theorem above_iff_mem_lineage {p q : Path} (hq : q.parts ≠ []) :
    Above p q ↔ p ∈ q.parent.lineage := by
  rw [mem_lineage_iff, Above, prefix_iff_dropLast hq, parent_root, parent_parts]
  constructor
  · rintro ⟨hr, hs | hs, hne⟩
    · exact absurd (ext_iff'.2 ⟨hr, hs⟩) hne
    · exact ⟨hr, hs⟩
  · rintro ⟨hr, hs⟩
    refine ⟨hr, .inr hs, fun he => ?_⟩
    have hl := hs.length_le
    have hpos := List.length_pos_iff.2 hq
    simp only [he, List.length_dropLast] at hl
    omega

section Below

variable {dir a b : Path}

theorem div_eq_div_iff (ha : a.root = .none) (hb : b.root = .none) :
    (dir / a : Path) = dir / b ↔ a = b := by
  simp [ext_iff', ha, hb]

theorem above_div_iff (ha : a.root = .none) (hb : b.root = .none) :
    Above (dir / a) (dir / b) ↔ Above a b := by
  unfold Above
  rw [ne_eq, div_eq_div_iff ha hb]
  simp [ha, hb]

theorem div_assoc (ha : a.root = .none) (hb : b.root = .none) :
    ((dir / a : Path) / b : Path) = dir / (a / b : Path) := by
  simp [ext_iff', ha, hb]

theorem parent_div (ha : a.root = .none) (hne : a.parts ≠ []) :
    (dir / a : Path).parent = dir / a.parent := by
  simp [ext_iff', ha, List.dropLast_append_of_ne_nil hne]

theorem name_div (ha : a.root = .none) (hne : a.parts ≠ []) : (dir / a : Path).name = a.name := by
  cases hl : a.parts.getLast? with
  | none => exact absurd (List.getLast?_eq_none_iff.1 hl) hne
  | some w => simp [name, ha, hl]

end Below

end BundleWright.Path
