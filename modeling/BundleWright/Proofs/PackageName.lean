import BundleWright.PackageName
/-!
What overriding makes of a name. Main statement: the first rule that matches gives the name; a rule
with a percent sign matches just the names that have a stem between its two ends, and puts that stem
into what it gives; and a rule turned round takes back what it does.
-/
namespace BundleWright.PackageName

section Letters

variable {rule name front back stem template pattern : List Char}

/-- There is a stem just when the two ends do not overlap, and it is what stands between them. -/
theorem stem?_eq_some_iff : stem? front back name = some stem ↔ name = front ++ stem ++ back := by
  unfold stem?
  constructor
  · intro h
    split at h
    · next hends =>
      simp only [Bool.and_eq_true, List.isPrefixOf_iff_prefix, List.isSuffixOf_iff_suffix,
        decide_eq_true_eq] at hends
      obtain ⟨⟨⟨rest, rfl⟩, hback⟩, hlength⟩ := hends
      -- the lengths keep the back out of the front
      have hrest : back <:+ rest := by
        refine List.suffix_of_suffix_length_le hback (List.suffix_append front rest) ?_
        rw [List.length_append] at hlength
        omega
      obtain ⟨between, rfl⟩ := hrest
      have hstem : between = stem := by simpa using h
      rw [hstem, List.append_assoc]
    · cases h
  · rintro rfl
    have hends : (front.isPrefixOf (front ++ stem ++ back) &&
        back.isSuffixOf (front ++ stem ++ back) &&
        decide (front.length + back.length ≤ (front ++ stem ++ back).length)) = true := by
      simp only [Bool.and_eq_true, List.isPrefixOf_iff_prefix, List.isSuffixOf_iff_suffix,
        decide_eq_true_eq, List.length_append]
      refine ⟨⟨?_, List.suffix_append _ back⟩, by omega⟩
      rw [List.append_assoc]
      exact List.prefix_append front _
    rw [if_pos hends]
    simp

theorem renamed?_of_no_colon (h : ':' ∉ rule) : renamed? rule name = none := by
  rw [renamed?, Text.cut?_eq_none_iff.2 h]
  rfl

theorem renamed?_exact (hc : ':' ∉ pattern) (hp : '%' ∉ pattern) :
    renamed? (pattern ++ ':' :: template) name =
      if pattern = name then some template else none := by
  have hcolon : Text.cut? ':' (pattern ++ ':' :: template) = some (pattern, template) :=
    Text.cut?_eq_some_iff.2 ⟨rfl, hc⟩
  simp only [renamed?, hcolon, Option.bind_some, Text.cut?_eq_none_iff.2 hp]

theorem renamed?_wild (hf : ':' ∉ front) (hb : ':' ∉ back) (hp : '%' ∉ front) :
    renamed? (front ++ '%' :: back ++ ':' :: template) name =
      (stem? front back name).map (fill · template) := by
  have hcolon : Text.cut? ':' (front ++ '%' :: back ++ ':' :: template) =
      some (front ++ '%' :: back, template) := Text.cut?_eq_some_iff.2 ⟨rfl, by simp [hf, hb]⟩
  have hpercent : Text.cut? '%' (front ++ '%' :: back) = some (front, back) :=
    Text.cut?_eq_some_iff.2 ⟨rfl, hp⟩
  simp only [renamed?, hcolon, Option.bind_some, hpercent]

end Letters

/-- Whether a text is a template in which a stem stands for the first percent sign, if there is
one. -/
inductive Fills (stem : String) : String → String → Prop
  | plain {template : String} : '%' ∉ template.toList → Fills stem template template
  | first {front back : String} : '%' ∉ front.toList →
      Fills stem (front ++ "%" ++ back) (front ++ stem ++ back)

def IsEnd (s : String) : Prop := '%' ∉ s.toList ∧ ':' ∉ s.toList

instance (s : String) : Decidable (IsEnd s) := inferInstanceAs (Decidable (_ ∧ _))

variable {name n stem template front back pattern : String}

theorem toList_around (front back : String) :
    (front ++ "%" ++ back).toList = front.toList ++ '%' :: back.toList := by
  simp

theorem fill_eq_iff : fill stem.toList template.toList = n.toList ↔ Fills stem template n := by
  unfold fill
  constructor
  · intro h
    cases hcut : Text.cut? '%' template.toList with
    | none =>
      rw [hcut] at h
      obtain rfl := String.toList_inj.1 h
      exact .plain (Text.cut?_eq_none_iff.1 hcut)
    | some ends =>
      rw [hcut] at h
      obtain ⟨htemplate, hfront⟩ := Text.cut?_eq_some_iff.1 hcut
      have ht : template = String.ofList ends.1 ++ "%" ++ String.ofList ends.2 := by
        rw [← String.toList_inj, htemplate]
        simp
      have hn : n = String.ofList ends.1 ++ stem ++ String.ofList ends.2 := by
        rw [← String.toList_inj, ← h]
        simp
      rw [ht, hn]
      exact .first (by rwa [String.toList_ofList])
  · intro h
    cases h with
    | plain hp => rw [Text.cut?_eq_none_iff.2 hp]
    | first hp =>
      rw [Text.cut?_eq_some_iff.2 ⟨toList_around _ _, hp⟩]
      simp

theorem fills_around_iff (h : '%' ∉ front.toList) :
    Fills stem (front ++ "%" ++ back) n ↔ n = front ++ stem ++ back := by
  rw [← fill_eq_iff, fill, Text.cut?_eq_some_iff.2 ⟨toList_around _ _, h⟩, ← String.toList_inj]
  simp [eq_comm]

theorem exists_fills (stem template : String) : ∃ n, Fills stem template n :=
  ⟨String.ofList (fill stem.toList template.toList), fill_eq_iff.1 (by simp)⟩

theorem override?_singleton (name rule : String) :
    override? name [rule] = (renamed? rule.toList name.toList).map String.ofList := by
  rw [override?, List.findSome?_singleton]

theorem override?_eq_findSome? (name : String) (rules : List String) :
    override? name rules = rules.findSome? fun rule => override? name [rule] := by
  rw [override?, List.map_findSome?]
  exact congrArg (List.findSome? · rules) (funext fun rule => (override?_singleton name rule).symm)

theorem override?_exact_iff (hc : ':' ∉ pattern.toList) (hp : '%' ∉ pattern.toList) :
    override? name [pattern ++ ":" ++ template] = some n ↔ name = pattern ∧ n = template := by
  have hrule : (pattern ++ ":" ++ template).toList = pattern.toList ++ ':' :: template.toList := by
    simp
  rw [override?_singleton, hrule, renamed?_exact hc hp]
  split
  · next he =>
    obtain rfl := String.toList_inj.1 he
    simp [eq_comm]
  · next hne =>
    have hname : name ≠ pattern := fun he => hne (he ▸ rfl)
    simp [hname]

theorem override?_wild_iff (hf : ':' ∉ front.toList) (hb : ':' ∉ back.toList)
    (hp : '%' ∉ front.toList) : override? name [front ++ "%" ++ back ++ ":" ++ template] = some n ↔
      ∃ stem, name = front ++ stem ++ back ∧ Fills stem template n := by
  have hrule : (front ++ "%" ++ back ++ ":" ++ template).toList =
      front.toList ++ '%' :: back.toList ++ ':' :: template.toList := by simp
  rw [override?_singleton, hrule, renamed?_wild hf hb hp]
  simp only [Option.map_eq_some_iff]
  constructor
  · rintro ⟨filled, ⟨stem, hstem, rfl⟩, rfl⟩
    refine ⟨String.ofList stem, ?_, fill_eq_iff.1 (by simp)⟩
    rw [← String.toList_inj, stem?_eq_some_iff.1 hstem]
    simp
  · rintro ⟨stem, rfl, hfills⟩
    exact ⟨n.toList, ⟨stem.toList, stem?_eq_some_iff.2 (by simp), fill_eq_iff.2 hfills⟩, by simp⟩

theorem isSome_override?_wild_iff (hf : ':' ∉ front.toList) (hb : ':' ∉ back.toList)
    (hp : '%' ∉ front.toList) :
    (override? name [front ++ "%" ++ back ++ ":" ++ template]).isSome = true ↔
      ∃ stem, name = front ++ stem ++ back := by
  rw [Option.isSome_iff_exists]
  constructor
  · rintro ⟨n, hn⟩
    obtain ⟨stem, hstem, -⟩ := (override?_wild_iff hf hb hp).1 hn
    exact ⟨stem, hstem⟩
  · rintro ⟨stem, hstem⟩
    obtain ⟨n, hn⟩ := exists_fills stem template
    exact ⟨n, (override?_wild_iff hf hb hp).2 ⟨stem, hstem, hn⟩⟩

theorem stem_unique {stem' : String} (h : name = front ++ stem ++ back)
    (h' : name = front ++ stem' ++ back) : stem = stem' := by
  simpa using h.symm.trans h'

/-- Names are given by the first rule that matches: none without a colon, one name where no percent
sign stands before it, and otherwise the names with a stem between the two ends, which is unique and
goes into what is given. Turned round, a rule takes back what it does. -/
theorem override_by_rules (name : String) :
    (∀ rules n, override? name rules = some n ↔ ∃ before rule after,
      rules = before ++ rule :: after ∧ (∀ r ∈ before, override? name [r] = none) ∧
        override? name [rule] = some n) ∧
    (∀ rules, override? name rules = none ↔ ∀ r ∈ rules, override? name [r] = none) ∧
    (∀ rule : String, ':' ∉ rule.toList → override? name [rule] = none) ∧
    (∀ pattern template n : String, ':' ∉ pattern.toList → '%' ∉ pattern.toList →
      (override? name [pattern ++ ":" ++ template] = some n ↔ name = pattern ∧ n = template)) ∧
    (∀ front back template : String, ':' ∉ front.toList → ':' ∉ back.toList → '%' ∉ front.toList →
      ((override? name [front ++ "%" ++ back ++ ":" ++ template]).isSome = true ↔
        ∃ stem, name = front ++ stem ++ back) ∧
      (∀ stem stem', name = front ++ stem ++ back → name = front ++ stem' ++ back →
        stem = stem') ∧
      ∀ n, override? name [front ++ "%" ++ back ++ ":" ++ template] = some n ↔
        ∃ stem, name = front ++ stem ++ back ∧ Fills stem template n) ∧
    ∀ p q r t n, IsEnd p → IsEnd q → IsEnd r → IsEnd t →
      override? name [p ++ "%" ++ q ++ ":" ++ (r ++ "%" ++ t)] = some n →
        override? n [r ++ "%" ++ t ++ ":" ++ (p ++ "%" ++ q)] = some name := by
  refine ⟨fun rules n => ?_, fun rules => ?_, fun rule h => ?_, ?_, ?_, ?_⟩
  · rw [override?_eq_findSome?, List.findSome?_eq_some_iff]
    constructor
    · rintro ⟨before, rule, after, hrules, hrule, hbefore⟩
      exact ⟨before, rule, after, hrules, hbefore, hrule⟩
    · rintro ⟨before, rule, after, hrules, hbefore, hrule⟩
      exact ⟨before, rule, after, hrules, hrule, hbefore⟩
  · rw [override?_eq_findSome?, List.findSome?_eq_none_iff]
  · rw [override?_singleton, renamed?_of_no_colon h]
    rfl
  · exact fun pattern template n hc hp => override?_exact_iff hc hp
  · exact fun front back template hf hb hp => ⟨isSome_override?_wild_iff hf hb hp,
      fun stem stem' => stem_unique, fun n => override?_wild_iff hf hb hp⟩
  · intro p q r t n hp hq hr ht h
    obtain ⟨stem, rfl, hfills⟩ := (override?_wild_iff hp.2 hq.2 hp.1).1 h
    obtain rfl := (fills_around_iff hr.1).1 hfills
    exact (override?_wild_iff hr.2 ht.2 hr.1).2 ⟨stem, rfl, .first hp.1⟩

/-- The ends of a rule may not overlap in a name; the next rule is tried then. -/
theorem override_by_rules_overlapping :
    override? "aba" ["ab%ba:c", "a%:%-%"] = some "ba-%" ∧
      override? "aba" ["%a:x%y"] = some "xaby" ∧ override? "xaby" ["x%y:%a"] = some "aba" := by
  obtain ⟨hfirst, -, -, -, hwild, hback⟩ := override_by_rules "aba"
  have hapart : ¬∃ stem, "aba" = "ab" ++ stem ++ "ba" := by
    rintro ⟨stem, hstem⟩
    have hlength := congrArg String.length hstem
    rw [String.length_append, String.length_append] at hlength
    have hends : "aba".length = 3 ∧ "ab".length = 2 ∧ "ba".length = 2 := by decide
    omega
  have hnone : override? "aba" ["ab%ba:c"] = none := Option.not_isSome_iff_eq_none.1
    (mt (hwild "ab" "ba" "c" (by decide) (by decide) (by decide)).1.1 hapart)
  have hmaps : override? "aba" ["%a:x%y"] = some "xaby" := by decide
  refine ⟨(hfirst _ _).2 ⟨["ab%ba:c"], "a%:%-%", [], rfl, ?_, by decide⟩, hmaps, ?_⟩
  · intro r hr
    rw [List.mem_singleton.1 hr, hnone]
  · exact hback "" "a" "x" "y" "xaby" (by decide) (by decide) (by decide) (by decide) hmaps

end BundleWright.PackageName
