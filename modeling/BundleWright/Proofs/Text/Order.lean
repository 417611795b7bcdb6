import BundleWright.AccessModes
/-!
Texts in order. Main statement: a list of texts in strict order is determined by its members.
-/
namespace BundleWright.Text

variable {l m : List String}

theorem lt_of_le_of_ne {a b : String} (h : a ≤ b) (hne : a ≠ b) : a < b :=
  Decidable.byContradiction fun hn => hne (String.le_antisymm h hn)

theorem pairwise_le_mergeSort (l : List String) : (l.mergeSort (· ≤ ·)).Pairwise (· ≤ ·) := by
  have hs : (l.mergeSort (· ≤ ·)).Pairwise fun a b => decide (a ≤ b) = true := by
    refine List.pairwise_mergeSort (fun a b c hab hbc => ?_) (fun a b => ?_) l
    · exact decide_eq_true (String.le_trans (of_decide_eq_true hab) (of_decide_eq_true hbc))
    · simpa using String.le_total a b
  exact hs.imp of_decide_eq_true

theorem pairwise_lt_of_nodup (h : l.Pairwise (· ≤ ·)) (hn : l.Nodup) : l.Pairwise (· < ·) :=
  (h.and hn).imp fun h => lt_of_le_of_ne h.1 h.2

theorem nodup_of_pairwise_lt (h : l.Pairwise (· < ·)) : l.Nodup := by
  refine List.Pairwise.imp ?_ h
  rintro a _ hab rfl
  exact String.lt_irrefl a hab

theorem eq_of_pairwise_lt (hl : l.Pairwise (· < ·)) (hm : m.Pairwise (· < ·))
    (h : ∀ t, t ∈ l ↔ t ∈ m) : l = m := by
  have hp : l.Perm m :=
    (List.perm_ext_iff_of_nodup (nodup_of_pairwise_lt hl) (nodup_of_pairwise_lt hm)).2 h
  refine hp.eq_of_pairwise (fun a b _ _ hab hba => ?_) hl hm
  exact absurd hba (String.lt_asymm hab)

theorem nodup_eraseDups {α : Type} [BEq α] [LawfulBEq α] (l : List α) : l.eraseDups.Nodup := by
  induction hn : l.length using Nat.strongRecOn generalizing l with
  | ind n ih =>
    cases l with
    | nil => simp
    | cons a l =>
      have hlen : (l.filter fun b => !b == a).length < n := by
        have hle := List.length_filter_le (fun b => !b == a) l
        simp only [List.length_cons] at hn
        omega
      rw [List.eraseDups_cons, List.nodup_cons]
      refine ⟨?_, ih _ hlen _ rfl⟩
      simp [List.mem_eraseDups]

theorem mem_sortedOnce {t : String} : t ∈ AccessModes.sortedOnce l ↔ t ∈ l := by
  rw [AccessModes.sortedOnce, List.mem_mergeSort, List.mem_eraseDups]

theorem pairwise_lt_sortedOnce (l : List String) :
    (AccessModes.sortedOnce l).Pairwise (· < ·) := by
  refine pairwise_lt_of_nodup (pairwise_le_mergeSort _) ?_
  exact (List.mergeSort_perm _ _).nodup_iff.2 (nodup_eraseDups l)

/-- The sorted list of some texts is the one in strict order that has the same members. -/
theorem sortedOnce_eq_iff : AccessModes.sortedOnce l = m ↔
    m.Pairwise (· < ·) ∧ (∀ t ∈ l, t ∈ m) ∧ ∀ t ∈ m, t ∈ l := by
  constructor
  · rintro rfl
    exact ⟨pairwise_lt_sortedOnce l, fun t => mem_sortedOnce.2, fun t => mem_sortedOnce.1⟩
  · rintro ⟨hm, hlm, hml⟩
    refine eq_of_pairwise_lt (pairwise_lt_sortedOnce l) hm fun t => ?_
    rw [mem_sortedOnce]
    exact ⟨hlm t, hml t⟩

end BundleWright.Text
