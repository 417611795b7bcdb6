import BundleWright.Path
/-!
Written paths. Main statement: a path that is written down is read back as itself, so different
paths have different texts.
-/
namespace BundleWright

namespace Text

theorem splitOn_of_not_mem {sep : Char} {w : List Char} (h : sep ∉ w) : splitOn sep w = [w] := by
  induction w with
  | nil => rfl
  | cons c w ih =>
    simp only [List.mem_cons, not_or] at h
    simp [splitOn, Ne.symm h.1, ih h.2]

theorem splitOn_append {sep : Char} (cs ds : List Char) :
    splitOn sep (cs ++ sep :: ds) = splitOn sep cs ++ splitOn sep ds := by
  induction cs with
  | nil => simp [splitOn]
  | cons c cs ih =>
    rw [List.cons_append, splitOn, splitOn, ih]
    by_cases hc : c = sep
    · simp [hc]
    · rw [if_neg hc, if_neg hc]
      cases hs : splitOn sep cs with
      | nil => exact absurd hs (splitOn_ne_nil sep cs)
      | cons w ws => rfl

theorem splitOn_append_cons {sep : Char} {w : List Char} (h : sep ∉ w) (cs : List Char) :
    splitOn sep (w ++ sep :: cs) = w :: splitOn sep cs := by
  rw [splitOn_append, splitOn_of_not_mem h, List.singleton_append]

theorem splitOn_intercalate {sep : Char} {ws : List (List Char)} (hne : ws ≠ [])
    (h : ∀ w ∈ ws, sep ∉ w) : splitOn sep (List.intercalate [sep] ws) = ws := by
  induction ws with
  | nil => exact absurd rfl hne
  | cons w ws ih =>
    have hw := h w (by simp)
    cases ws with
    | nil => simp [splitOn_of_not_mem hw]
    | cons v vs =>
      have hr := ih (by simp) (fun u hu => h u (List.mem_cons_of_mem _ hu))
      rw [List.intercalate_cons_cons, List.append_assoc, List.singleton_append,
        splitOn_append_cons hw, hr]

theorem exists_splitOn_append {sep : Char} {t : List Char} (h : sep ∉ t) (cs : List Char) :
    ∃ init w, splitOn sep (cs ++ t) = init ++ [w ++ t] := by
  induction cs with
  | nil => exact ⟨[], [], splitOn_of_not_mem h⟩
  | cons c cs ih =>
    obtain ⟨init, w, hw⟩ := ih
    rw [List.cons_append, splitOn, hw]
    split
    · exact ⟨[] :: init, w, rfl⟩
    · cases init with
      | nil => exact ⟨[], c :: w, rfl⟩
      | cons v init => exact ⟨(c :: v) :: init, w, rfl⟩

end Text

namespace Path

theorem IsComponent.ne_nil {p : String} (h : IsComponent p) : p.toList ≠ [] := h.1

theorem IsComponent.not_mem {p : String} (h : IsComponent p) : '/' ∉ p.toList := h.2.2

theorem IsComponent.keeps {p : String} (h : IsComponent p) : keeps p.toList = true := by
  simp [Path.keeps, h.1, h.2.1]

theorem splitOn_intercalate_slash {ps : List String} (hne : ps ≠ [])
    (h : ∀ p ∈ ps, IsComponent p) :
    Text.splitOn '/' (String.intercalate "/" ps).toList = ps.map String.toList := by
  rw [String.toList_intercalate]
  refine Text.splitOn_intercalate (by simpa using hne) fun w hw => ?_
  obtain ⟨q, hq, rfl⟩ := List.mem_map.1 hw
  exact (h q hq).not_mem

theorem components_intercalate {ps : List String} (h : ∀ p ∈ ps, IsComponent p) :
    components (String.intercalate "/" ps).toList = ps := by
  cases ps with
  | nil => rfl
  | cons p ps =>
    have hs := splitOn_intercalate_slash (List.cons_ne_nil p ps) h
    have hk : ((p :: ps).map String.toList).filter keeps = (p :: ps).map String.toList := by
      refine List.filter_eq_self.2 fun w hw => ?_
      obtain ⟨q, hq, rfl⟩ := List.mem_map.1 hw
      exact (h q hq).keeps
    simp only [components, hs, hk, List.map_map]
    simp [Function.comp_def]

theorem components_append_slash (cs ds : List Char) :
    components (cs ++ '/' :: ds) = components cs ++ components ds := by
  simp [components, Text.splitOn_append]

theorem components_cons_slash (cs : List Char) : components ('/' :: cs) = components cs :=
  components_append_slash [] cs

theorem intercalate_eq_cons {p : String} (h : IsComponent p) (ps : List String) :
    ∃ c cs, (String.intercalate "/" (p :: ps)).toList = c :: cs ∧ c ≠ '/' := by
  cases hp : p.toList with
  | nil => exact absurd hp h.ne_nil
  | cons c cs =>
    have hc : c ≠ '/' := by
      rintro rfl
      exact h.not_mem (by simp [hp])
    cases ps with
    | nil => exact ⟨c, cs, by simp [hp], hc⟩
    | cons q qs =>
      exact ⟨c, _, by rw [String.intercalate_cons_cons]; simp [hp]; rfl, hc⟩

/-- The root is read off the slashes in front of the first component. -/
theorem ofChars_text (r : Root) {c : Char} (h : c ≠ '/') (cs : List Char) :
    Root.ofChars (r.text.toList ++ c :: cs) = r := by
  cases r <;> simp only [Root.text] <;> unfold Root.ofChars <;> split <;> grind

theorem components_text (r : Root) (cs : List Char) :
    components (r.text.toList ++ cs) = components cs := by
  cases r <;> simp [Root.text, components_cons_slash]

/-- What is written is read back. -/
@[simp] theorem ofString_text (p : Path) : ofString p.text = p := by
  obtain ⟨r, ps, h⟩ := p
  rw [ext_iff']
  cases ps with
  | nil => cases r <;> simp only [text] <;> decide +kernel
  | cons p ps =>
    obtain ⟨c, cs, hcs, hc⟩ := intercalate_eq_cons (h p (by simp)) ps
    have ht : (text ⟨r, p :: ps, h⟩).toList = r.text.toList ++ c :: cs := by
      simp only [text, String.toList_append, hcs]
    have hps := components_intercalate h
    rw [hcs] at hps
    simp only [ofString, ht]
    exact ⟨ofChars_text r hc cs, by rw [components_text, hps]⟩

theorem text_injective {p q : Path} (h : p.text = q.text) : p = q := by
  have hr := congrArg ofString h
  simpa using hr

theorem text_of_ne_nil {p : Path} (h : p.parts ≠ []) :
    p.text = p.root.text ++ String.intercalate "/" p.parts := by
  obtain ⟨r, ps, _⟩ := p
  cases ps with
  | nil => exact absurd rfl h
  | cons q qs => cases r <;> rfl

theorem text_ne_empty (p : Path) : p.text ≠ "" := by
  intro h
  have hp := congrArg ofString h
  rw [ofString_text] at hp
  rw [hp] at h
  revert h
  decide +kernel

theorem ofString_component {s : String} (h : IsComponent s) :
    ofString s = ⟨.none, [s], by simpa using h⟩ := by
  have ht : text ⟨.none, [s], by simpa using h⟩ = s := by simp [text, Root.text]
  rw [← ofString_text ⟨.none, [s], by simpa using h⟩, ht]

theorem root_div_component {a : Path} {s : String} (h : IsComponent s) :
    (a / s : Path).root = a.root :=
  join_root_of_relative (b := ofString s) (by rw [ofString_component h])

theorem parts_div_component {a : Path} {s : String} (h : IsComponent s) :
    (a / s : Path).parts = a.parts ++ [s] := by
  have hc := ofString_component h
  exact (join_parts_of_relative (b := ofString s) (by rw [hc])).trans (by rw [hc])

theorem isComponent_of_isPlainName {s : String} (h : isPlainName s = true) : IsComponent s := by
  simp only [isPlainName, Bool.and_eq_true, bne_iff_ne, ne_eq, Bool.not_eq_true',
    List.contains_eq_mem, decide_eq_false_iff_not] at h
  obtain ⟨⟨⟨he, hs⟩, hd⟩, _⟩ := h
  refine ⟨by simpa using he, fun hl => hd ?_, hs⟩
  exact String.toList_inj.1 hl

theorem isComponent_name {p : Path} (h : p.name ≠ "") : IsComponent p.name := by
  unfold name at h ⊢
  cases hl : p.parts.getLast? with
  | none => simp [hl] at h
  | some w => exact p.proper w (List.mem_of_getLast? hl)

theorem exists_name_ofString_append {t : String} (hs : '/' ∉ t.toList)
    (ht : 2 ≤ t.toList.length) (x : String) : ∃ w, (ofString (x ++ t)).name = w ++ t := by
  obtain ⟨init, w, hw⟩ := Text.exists_splitOn_append hs x.toList
  have hk : keeps (w ++ t.toList) = true := by
    have hlen : 2 ≤ (w ++ t.toList).length := by
      rw [List.length_append]
      omega
    unfold keeps
    match hl : w ++ t.toList with
    | [] => simp [hl] at hlen
    | [c] => simp [hl] at hlen
    | c :: d :: rest => simp
  refine ⟨String.ofList w, ?_⟩
  simp only [name, ofString, components, String.toList_append, hw, List.filter_append,
    List.filter_cons, hk, ite_true, List.filter_nil, List.map_append, List.map_cons, List.map_nil,
    List.getLast?_concat, Option.getD_some]
  exact String.toList_inj.1 (by simp)

theorem isRelativeSubdir_iff {s : String} :
    isRelativeSubdir s = true ↔ (ofString s).root = .none ∧ ".." ∉ (ofString s).parts := by
  simp [isRelativeSubdir, isAbsolute]

end Path

end BundleWright
