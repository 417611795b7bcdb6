import BundleWright.Proofs.Defaults
/-!
Merging in any grouping. Main statement: where each key always holds a list, always a dictionary, or
always a single value or null, merging is associative, and this is so of all that declarations of
bundles and defaults are put out as.
-/
namespace BundleWright

namespace Fields

variable {fs gs : Fields} {k : Scalar} {d : Datum}

theorem mem_of_get?_eq_some (h : fs.get? k = some d) : (k, d) ∈ fs := by
  induction fs with
  | nil => simp [get?] at h
  | cons f fs ih =>
    rw [get?_cons] at h
    split at h
    · next hk =>
      cases h
      rw [hk]
      exact List.mem_cons_self
    · exact List.mem_cons_of_mem f (ih h)

/-- Fields are told apart by their keys in order and by what stands under them. -/
theorem eq_of_get?_eq (hk : fs.keys = gs.keys) (hn : fs.keys.Nodup)
    (h : ∀ k, fs.get? k = gs.get? k) : fs = gs := by
  induction fs generalizing gs with
  | nil => exact (List.map_eq_nil_iff.1 hk.symm).symm
  | cons f fs ih =>
    obtain ⟨g, rest, rfl, hg, hrest⟩ := List.map_eq_cons_iff.1 hk.symm
    obtain ⟨hf, hn⟩ := List.nodup_cons.1 hn
    have hsecond : f.2 = g.2 := by
      have := h f.1
      rw [get?_cons, get?_cons, if_pos rfl, if_pos hg.symm] at this
      exact Option.some.inj this
    have hfirst : f = g := Prod.ext hg.symm hsecond
    rw [hfirst, ih hrest.symm hn]
    intro k
    have hkeys := h k
    rw [get?_cons, get?_cons, hg] at hkeys
    by_cases he : k = f.1
    · rw [he, get?_eq_none_iff.2 hf, get?_eq_none_iff.2]
      rwa [keys, hrest]
    · rwa [if_neg he, if_neg he] at hkeys

theorem keys_put (k : Scalar) (d : Datum) (fs : Fields) :
    (fs.put k d).keys = if k ∈ fs.keys then fs.keys else fs.keys ++ [k] := by
  induction fs with
  | nil => simp [put, keys]
  | cons f fs ih =>
    obtain ⟨a, e⟩ := f
    unfold put
    simp only [keys, List.map_cons, List.mem_cons] at ih ⊢
    by_cases h : a = k
    · simp [h]
    · rw [if_neg h, List.map_cons, ih]
      by_cases hk : k ∈ fs.map (·.1) <;> simp [hk, Ne.symm h]

end Fields

namespace Datum

variable {base top : Fields}

theorem keys_mergeFields (hn : top.keys.Nodup) :
    (mergeFields base top).keys = base.keys ++ top.keys.filter (· ∉ base.keys) := by
  induction top generalizing base with
  | nil => simp [mergeFields, Fields.keys]
  | cons f top ih =>
    obtain ⟨a, e⟩ := f
    obtain ⟨ha, hn⟩ := List.nodup_cons.1 hn
    rw [mergeFields, ih hn, Fields.keys_put]
    change _ = _ ++ (a :: Fields.keys top).filter _
    split
    · next hmem => simp [hmem]
    · next hmem =>
      have hrest : (Fields.keys top).filter (· ∉ base.keys ++ [a]) =
          (Fields.keys top).filter (· ∉ base.keys) := by
        refine List.filter_congr fun k hk => ?_
        have hne : k ≠ a := fun he => ha (he ▸ hk)
        simp [hne]
      rw [hrest, List.filter_cons_of_pos (by simpa using hmem), List.append_assoc]
      rfl

/-- What each dictionary of a family holds under a key: a list, a single value or null, or a
dictionary of a family of its own. -/
inductive Shape where
  | list
  | single
  | dictionary (under : Scalar → Shape)

namespace Shape

def Fits : Shape → Datum → Prop
  | .list, d => ∃ items, d = .arr items
  | .single, d => ∃ s, d = .scalar s
  | .dictionary under, d =>
    ∃ fs : Fields, d = .obj fs ∧ fs.keys.Nodup ∧ ∀ f ∈ fs, (under f.1).Fits f.2

variable {σ : Shape} {under : Scalar → Shape} {d e f : Datum} {fs gs : Fields} {k : Scalar}

theorem fits_obj_iff : (dictionary under).Fits (.obj fs) ↔
    fs.keys.Nodup ∧ ∀ f ∈ fs, (under f.1).Fits f.2 := by
  simp [Fits]

theorem fits_of_get? (h : (dictionary under).Fits (.obj fs)) (hd : fs.get? k = some d) :
    (under k).Fits d :=
  (fits_obj_iff.1 h).2 (k, d) (Fields.mem_of_get?_eq_some hd)

theorem fits_obj_of_get? (hn : fs.keys.Nodup)
    (h : ∀ k d, fs.get? k = some d → (under k).Fits d) : (dictionary under).Fits (.obj fs) :=
  fits_obj_iff.2 ⟨hn, fun f hf => h f.1 f.2 (Fields.get?_eq_some_of_mem hn hf)⟩

theorem nodup_keys_of_fits (h : σ.Fits (.obj fs)) : fs.keys.Nodup := by
  cases σ with
  | dictionary under => exact (fits_obj_iff.1 h).1
  | _ => simp [Fits] at h

theorem fits_mergeValue (hd : σ.Fits d) (he : σ.Fits e) : σ.Fits (mergeValue d e) := by
  induction σ generalizing d e with
  | list =>
    obtain ⟨xs, rfl⟩ := hd
    obtain ⟨ys, rfl⟩ := he
    exact ⟨xs ++ ys, by rw [mergeValue]⟩
  | single =>
    obtain ⟨s, rfl⟩ := hd
    obtain ⟨t, rfl⟩ := he
    by_cases ht : t = .null
    · exact ⟨s, by rw [ht, mergeValue_null]⟩
    · exact ⟨t, mergeValue_scalar _ ht⟩
  | dictionary under ih =>
    obtain ⟨fs, rfl, hfs⟩ := id hd
    obtain ⟨gs, rfl, hgs⟩ := id he
    rw [mergeValue_obj]
    refine fits_obj_of_get? (keys_nodup_mergeFields hfs.1) fun k d' h => ?_
    rw [get?_mergeFields hgs.1] at h
    cases hf : fs.get? k with
    | none =>
      rw [hf] at h
      exact fits_of_get? he h
    | some d =>
      cases hg : gs.get? k with
      | none =>
        rw [hf, hg] at h
        cases h
        exact fits_of_get? hd hf
      | some e =>
        rw [hf, hg] at h
        cases h
        exact ih k (fits_of_get? hd hf) (fits_of_get? he hg)

theorem mergeOption_assoc {o p q : Option Datum}
    (h : ∀ d ∈ o, ∀ e ∈ p, ∀ f ∈ q,
      mergeValue (mergeValue d e) f = mergeValue d (mergeValue e f)) :
    mergeOption (mergeOption o p) q = mergeOption o (mergeOption p q) := by
  cases o with
  | none => rfl
  | some d =>
    cases p with
    | none => rfl
    | some e =>
      cases q with
      | none => rfl
      | some f => exact congrArg some (h d rfl e rfl f rfl)

theorem mergeValue_assoc (hd : σ.Fits d) (he : σ.Fits e) (hf : σ.Fits f) :
    mergeValue (mergeValue d e) f = mergeValue d (mergeValue e f) := by
  induction σ generalizing d e f with
  | list =>
    obtain ⟨xs, rfl⟩ := hd
    obtain ⟨ys, rfl⟩ := he
    obtain ⟨zs, rfl⟩ := hf
    simp [mergeValue]
  | single =>
    obtain ⟨s, rfl⟩ := hd
    obtain ⟨t, rfl⟩ := he
    obtain ⟨u, rfl⟩ := hf
    by_cases hu : u = .null
    · rw [hu, mergeValue_null, mergeValue_null]
    · rw [mergeValue_scalar _ hu, mergeValue_scalar _ hu, mergeValue_scalar _ hu]
  | dictionary under ih =>
    obtain ⟨fs, rfl, hfs⟩ := id hd
    obtain ⟨gs, rfl, hgs⟩ := id he
    obtain ⟨hs, rfl, hhs⟩ := id hf
    simp only [mergeValue_obj, obj.injEq]
    have hgh : (mergeFields gs hs).keys.Nodup := keys_nodup_mergeFields hgs.1
    refine Fields.eq_of_get?_eq ?_ (keys_nodup_mergeFields (keys_nodup_mergeFields hfs.1)) fun k => ?_
    · rw [keys_mergeFields hhs.1, keys_mergeFields hgs.1, keys_mergeFields hgh,
        keys_mergeFields hhs.1, List.filter_append, List.append_assoc, List.filter_filter]
      refine congrArg _ (congrArg _ (List.filter_congr fun k _ => ?_))
      by_cases hk : k ∈ fs.keys <;> simp [hk]
    · rw [get?_mergeFields hhs.1, get?_mergeFields hgs.1, get?_mergeFields hgh,
        get?_mergeFields hhs.1]
      exact mergeOption_assoc fun d' hd' e' he' f' hf' =>
        ih k (fits_of_get? hd hd') (fits_of_get? he he') (fits_of_get? hf hf')

theorem mergeFields_nil_left (hn : fs.keys.Nodup) : mergeFields [] fs = fs := by
  refine Fields.eq_of_get?_eq ?_ (keys_nodup_mergeFields List.nodup_nil) fun k => ?_
  · rw [keys_mergeFields hn]
    simp [Fields.keys]
  · rw [get?_mergeFields hn]
    rfl

end Shape

def keysAt : List Scalar → Datum → List Scalar
  | [], .obj fs => Fields.keys fs
  | k :: path, .obj fs => ((Fields.get? fs k).map (keysAt path)).getD []
  | _, _ => []

theorem keysAt_arr (path : List Scalar) (items : List Datum) : keysAt path (.arr items) = [] := by
  cases path <;> rfl

theorem keysAt_scalar (path : List Scalar) (s : Scalar) : keysAt path (.scalar s) = [] := by
  cases path <;> rfl

namespace Shape

variable {σ : Shape} {d e : Datum}

theorem mem_keysAt_mergeValue (hd : σ.Fits d) (he : σ.Fits e) (path : List Scalar) (k : Scalar) :
    k ∈ keysAt path (mergeValue d e) ↔ k ∈ keysAt path d ∨ k ∈ keysAt path e := by
  induction σ generalizing d e path with
  | list =>
    obtain ⟨items, hm⟩ := fits_mergeValue hd he
    obtain ⟨xs, rfl⟩ := hd
    obtain ⟨ys, rfl⟩ := he
    simp [hm, keysAt_arr]
  | single =>
    obtain ⟨s, hm⟩ := fits_mergeValue hd he
    obtain ⟨t, rfl⟩ := hd
    obtain ⟨u, rfl⟩ := he
    simp [hm, keysAt_scalar]
  | dictionary under ih =>
    obtain ⟨fs, rfl, hfs⟩ := id hd
    obtain ⟨gs, rfl, hgs⟩ := id he
    rw [mergeValue_obj]
    cases path with
    | nil => exact mem_keys_mergeFields fs gs
    | cons a path =>
      simp only [keysAt, get?_mergeFields hgs.1]
      cases hf : fs.get? a with
      | none => simp [mergeOption]
      | some d =>
        cases hg : gs.get? a with
        | none => simp [mergeOption]
        | some e => exact ih a (fits_of_get? hd hf) (fits_of_get? he hg) path

theorem fits_writtenPart (h : σ.Fits d) (j : Datum) : σ.Fits (Declaration.writtenPart d j) := by
  induction σ generalizing d j with
  | list =>
    obtain ⟨items, rfl⟩ := h
    exact ⟨items, by simp [Declaration.writtenPart]⟩
  | single =>
    obtain ⟨s, rfl⟩ := h
    exact ⟨s, Declaration.writtenPart_scalar s j⟩
  | dictionary under ih =>
    obtain ⟨fs, rfl, hfs⟩ := id h
    cases j with
    | obj ws =>
      rw [Declaration.writtenPart_obj]
      refine fits_obj_of_get? (Declaration.sublist_keys_writtenFields.nodup hfs.1) fun k e he => ?_
      rw [Declaration.get?_writtenFields] at he
      obtain ⟨d, hd, he⟩ := Option.bind_eq_some_iff.1 he
      obtain ⟨w, -, rfl⟩ := Option.map_eq_some_iff.1 he
      exact ih k (fits_of_get? h hd) w.2
    | _ =>
      rw [Declaration.writtenPart]
      · exact h
      · simp

theorem fits_ofStrings (l : List String) : list.Fits (.ofStrings l) := ⟨_, rfl⟩

theorem fits_ofString? (s : Option String) : single.Fits (.ofString? s) := by
  cases s <;> exact ⟨_, rfl⟩

theorem fits_ofBool? (b : Option Bool) : single.Fits (.ofBool? b) := by
  cases b <;> exact ⟨_, rfl⟩

def multilib : Shape := .dictionary fun _ => .dictionary fun _ => .list

def ofField : Scalar → Shape
  | .str "multilib" => multilib
  | .str "target" => .dictionary fun _ => .dictionary fun _ => multilib
  | .str "native_shared_libs" | .str "binaries" | .str "java_libs" | .str "prebuilts"
  | .str "defaults" => .list
  | _ => .single

def declaration : Shape := .dictionary ofField

theorem fits_multilib (m : Multilib) : multilib.Fits m.toDatum := by
  have hbuckets : (Bucket.all.map fun b => Scalar.str b.word).Nodup := by decide
  have hlists : [Scalar.str "native_shared_libs", .str "binaries"].Nodup := by decide
  refine fits_obj_iff.2 ⟨hbuckets, fun f hf => ?_⟩
  obtain ⟨bucket, -, rfl⟩ := List.mem_map.1 hf
  refine fits_obj_iff.2 ⟨hlists, ?_⟩
  simp [fits_ofStrings]

theorem fits_perOs (p : PerOs) :
    (dictionary fun _ => dictionary fun _ => multilib).Fits p.toDatum := by
  have hblocks : [Scalar.str "android", .str "host", .str "linux_bionic",
      .str "linux_glibc"].Nodup := by decide
  refine fits_obj_iff.2 ⟨hblocks, ?_⟩
  simp [fits_obj_iff, Fields.keys, fits_multilib]

theorem fits_properties (p : BundleProperties) : declaration.Fits (.obj p.toFields) := by
  refine fits_obj_iff.2 ⟨Record.nodup_keys_toFields (r := BundleProperties.record), ?_⟩
  simp [BundleProperties.toFields, ofField, fits_ofStrings, fits_ofString?, fits_ofBool?,
    fits_multilib, fits_perOs]

theorem fits_append {p : BundleProperties} {own : Fields} (hn : (p.toFields ++ own).keys.Nodup)
    (h : ∀ f ∈ own, (ofField f.1).Fits f.2) : declaration.Fits (.obj (p.toFields ++ own)) :=
  fits_obj_iff.2 ⟨hn, fun f hf =>
    (List.mem_append.1 hf).elim ((fits_obj_iff.1 (fits_properties p)).2 f) (h f)⟩

theorem fits_bundle (b : Bundle) : declaration.Fits b.toDatum :=
  fits_append b.nodup_keys_toFields (by simp [ofField, fits_ofStrings, Fits])

theorem fits_defaults (d : BundleDefaults) : declaration.Fits d.toDatum := by
  have hkeys : ((Declaration.propertyKeys ++ ["type", "name"]).map Scalar.str).Nodup := by decide
  exact fits_append hkeys (by simp [ofField, Fits])

end Shape

/-- What declarations of bundles and of defaults are put out as: with all fields, without those that
are not properties, or only as far as something was written. -/
inductive PutOut : Datum → Prop
  | bundle (b : Bundle) : PutOut b.toDatum
  | defaults (d : BundleDefaults) : PutOut d.toDatum
  | properties (p : BundleProperties) : PutOut (.obj p.toFields)
  | written {d : Datum} (h : PutOut d) (j : Datum) : PutOut (Declaration.writtenPart d j)

theorem PutOut.fits {d : Datum} (h : PutOut d) : Shape.declaration.Fits d := by
  induction h with
  | bundle b => exact Shape.fits_bundle b
  | defaults d => exact Shape.fits_defaults d
  | properties p => exact Shape.fits_properties p
  | written _ j ih => exact Shape.fits_writtenPart ih j

inductive Bracketing where
  | one (d : Datum)
  | merged (left right : Bracketing)

namespace Bracketing

def chain : Bracketing → List Datum
  | one d => [d]
  | merged left right => left.chain ++ right.chain

def result : Bracketing → Datum
  | one d => d
  | merged left right => mergeValue left.result right.result

variable {under : Scalar → Shape} {m : Datum} {l : List Datum}

open Shape

theorem fits_foldl (hm : (dictionary under).Fits m) (hl : ∀ d ∈ l, (dictionary under).Fits d) :
    (dictionary under).Fits (l.foldl mergeValue m) := by
  induction l generalizing m with
  | nil => exact hm
  | cons d l ih =>
    obtain ⟨hd, hl⟩ := List.forall_mem_cons.1 hl
    exact ih (fits_mergeValue hm hd) hl

theorem fits_empty : (dictionary under).Fits (.obj []) :=
  fits_obj_iff.2 ⟨List.nodup_nil, List.forall_mem_nil _⟩

theorem mergeValue_empty_left (hm : (dictionary under).Fits m) : mergeValue (.obj []) m = m := by
  obtain ⟨fs, rfl, hn, -⟩ := hm
  rw [mergeValue_obj, mergeFields_nil_left hn]

theorem foldl_eq (hm : (dictionary under).Fits m) (hl : ∀ d ∈ l, (dictionary under).Fits d) :
    l.foldl mergeValue m = mergeValue m (l.foldl mergeValue (.obj [])) := by
  induction l generalizing m with
  | nil =>
    obtain ⟨fs, rfl, -⟩ := hm
    rw [List.foldl_nil, List.foldl_nil, mergeValue_obj, mergeFields]
  | cons d l ih =>
    obtain ⟨hd, hl⟩ := List.forall_mem_cons.1 hl
    rw [List.foldl_cons, List.foldl_cons, mergeValue_empty_left hd, ih (fits_mergeValue hm hd) hl,
      ih hd hl, mergeValue_assoc hm hd (fits_foldl fits_empty hl)]

/-- Whatever the grouping, the result is that of merging one after another. -/
theorem result_eq (t : Bracketing) (h : ∀ d ∈ t.chain, (dictionary under).Fits d) :
    t.result = t.chain.foldl mergeValue (.obj []) := by
  induction t with
  | one d => exact (mergeValue_empty_left (h d List.mem_cons_self)).symm
  | merged left right hleft hright =>
    obtain ⟨hl, hr⟩ := List.forall_mem_append.1 h
    have hfits := fits_foldl fits_empty hl
    rw [result, chain, hleft hl, hright hr, List.foldl_append, foldl_eq hfits hr]

end Bracketing

end Datum

open Declaration

theorem putOut_writtenProperties (d : Accepted readDefaults) : Datum.PutOut d.writtenProperties :=
  .written (.properties d.value.properties) d.source

theorem putOut_writtenBundle (b : Accepted readBundle) : Datum.PutOut b.writtenBundle :=
  .written (.bundle b.value) b.source

theorem result_eq_mergedBundle {b : Accepted readBundle} {ds : List (Accepted readDefaults)}
    {t : Datum.Bracketing} (h : t.chain = ds.map (·.writtenProperties) ++ [b.writtenBundle]) :
    t.result = mergedBundle b ds := by
  have hfits : ∀ d ∈ t.chain, Datum.Shape.declaration.Fits d := by
    rw [h, List.forall_mem_append, List.forall_mem_singleton, List.forall_mem_map]
    exact ⟨fun d _ => (putOut_writtenProperties d).fits, (putOut_writtenBundle b).fits⟩
  rw [t.result_eq hfits, h, List.foldl_append, List.foldl_map]
  rfl

namespace Datum

open Shape

/-- Merging is associative with the empty dictionary as its unit, and at every level it keeps the
keys of both sides, wherever both keep to one shape; all declarations of bundles and defaults keep to
one, so that a chain of defaults may be merged in any grouping. -/
theorem grouping_irrelevant :
    (∀ {σ : Shape} {a b c : Fields}, σ.Fits (.obj a) → σ.Fits (.obj b) → σ.Fits (.obj c) →
      mergeFields (mergeFields a b) c = mergeFields a (mergeFields b c) ∧
        mergeFields [] a = a ∧ mergeFields a [] = a ∧
        ∀ path k, k ∈ keysAt path (.obj (mergeFields a b)) ↔
          k ∈ keysAt path (.obj a) ∨ k ∈ keysAt path (.obj b)) ∧
      (∀ {d : Datum}, PutOut d → declaration.Fits d) ∧
      ∀ {b : Accepted readBundle} {ds : List (Accepted readDefaults)} {t : Bracketing},
        t.chain = ds.map (·.writtenProperties) ++ [b.writtenBundle] →
          t.result = mergedBundle b ds := by
  refine ⟨fun {σ a b c} ha hb hc => ⟨?_, ?_, ?_, fun path k => ?_⟩, PutOut.fits,
    result_eq_mergedBundle⟩
  · have h := mergeValue_assoc ha hb hc
    simpa only [mergeValue_obj, obj.injEq] using h
  · exact mergeFields_nil_left (nodup_keys_of_fits ha)
  · rw [mergeFields]
  · rw [← mergeValue_obj]
    exact mem_keysAt_mergeValue ha hb path k

def flagged : BundleProperties :=
  { installable := some false, multilib := Bundle.lib32Binaries ["x"] }

def keyed : BundleProperties := { key := some "k", javaLibs := ["j"] }

/-- Three dumps in which nulls, lists, dictionaries and a false value meet, and a chain with the same
defaults twice. -/
theorem grouping_irrelevant_flagged :
    let a := flagged.toFields
    let b := keyed.toFields
    let t : Bracketing := .merged (.one Bundle.longNamed.writtenProperties)
      (.merged (.one Bundle.longNamed.writtenProperties) (.one Bundle.shortNamed.writtenBundle))
    (declaration.Fits (.obj a) ∧ declaration.Fits (.obj b)) ∧
      mergeFields (mergeFields a b) a = mergeFields a (mergeFields b a) ∧
      t.result = mergedBundle Bundle.shortNamed [Bundle.longNamed, Bundle.longNamed] := by
  have ha := grouping_irrelevant.2.1 (.properties flagged)
  have hb := grouping_irrelevant.2.1 (.properties keyed)
  exact ⟨⟨ha, hb⟩, (grouping_irrelevant.1 ha hb ha).1, grouping_irrelevant.2.2 rfl⟩

end Datum

end BundleWright
