import BundleWright.Datum.Merge
import BundleWright.Declaration.Printer
import BundleWright.Proofs.Declared
import Mathlib.Data.List.Nodup
/-!
Merging what declarations leave out. Main statement: where the fields of a record can each be merged
in their written form and then read as one value laid over the other, so can the record, whatever
fields either side leaves out.
-/
namespace BundleWright

namespace Fields

variable {fs : Fields} {k key : Scalar} {d : Datum}

theorem get?_cons (f : Scalar × Datum) :
    get? (f :: fs) k = if k = f.1 then some f.2 else fs.get? k := by
  obtain ⟨a, e⟩ := f
  by_cases h : k = a
  · simp [get?, h]
  · simp [get?, List.lookup_cons, h, beq_false_of_ne h]

theorem get?_put : (fs.put key d).get? k = if k = key then some d else fs.get? k := by
  induction fs with
  | nil => exact get?_cons _
  | cons f fs ih =>
    obtain ⟨a, e⟩ := f
    unfold put
    split
    · next h =>
      subst h
      simp only [get?_cons]
      split <;> rfl
    · next h =>
      simp only [get?_cons, ih]
      by_cases hk : k = a
      · simp [hk, h]
      · simp [hk]

theorem get?_eq_none_iff : fs.get? k = none ↔ k ∉ fs.keys := by
  induction fs with
  | nil => simp [get?, keys]
  | cons f fs ih =>
    rw [get?_cons, keys, List.map_cons, List.mem_cons, not_or, ← keys, ← ih]
    split <;> simp_all

theorem get?_eq_some_of_mem (hn : fs.keys.Nodup) (h : (k, d) ∈ fs) : fs.get? k = some d := by
  induction fs with
  | nil => simp at h
  | cons f fs ih =>
    obtain ⟨hf, hn⟩ := List.nodup_cons.1 hn
    rw [get?_cons]
    rcases List.mem_cons.1 h with rfl | h
    · exact if_pos rfl
    · rw [if_neg, ih hn h]
      rintro rfl
      exact hf (List.mem_map.2 ⟨_, h, rfl⟩)

theorem get?_append (gs : Fields) : get? (fs ++ gs) k = (fs.get? k).or (gs.get? k) := by
  simp [get?, List.lookup_append]

end Fields

namespace Datum

variable {base top : Fields} {k : Scalar}

def mergeOption : Option Datum → Option Datum → Option Datum
  | none, o => o
  | some d, none => some d
  | some d, some e => some (mergeValue d e)

theorem mergeValue_obj : mergeValue (.obj base) (.obj top) = .obj (mergeFields base top) := by
  rw [mergeValue]

theorem mergeValue_ofStrings (l m : List String) :
    mergeValue (.ofStrings l) (.ofStrings m) = .ofStrings (l ++ m) := by
  simp [ofStrings, mergeValue]

theorem mergeValue_null (d : Datum) : mergeValue d .null = d := by
  cases d <;> simp [mergeValue]

theorem mergeValue_scalar {s : Scalar} (d : Datum) (h : s ≠ .null) :
    mergeValue d (.scalar s) = .scalar s := by
  cases s <;> first | exact absurd rfl h | (cases d <;> simp [mergeValue])

theorem get?_mergeFields (hn : top.keys.Nodup) :
    (mergeFields base top).get? k = mergeOption (base.get? k) (top.get? k) := by
  induction top generalizing base with
  | nil =>
    rw [mergeFields]
    cases base.get? k <;> rfl
  | cons f top ih =>
    obtain ⟨a, e⟩ := f
    obtain ⟨ha, hn⟩ := List.nodup_cons.1 hn
    rw [mergeFields, ih hn, Fields.get?_put, Fields.get?_cons]
    by_cases h : k = a
    · subst h
      -- the rest of `top` does not have the key again, so what is merged here stays
      rw [if_pos rfl, if_pos rfl, Fields.get?_eq_none_iff.2 ha]
      cases base.get? k <;> rfl
    · rw [if_neg h, if_neg h]

theorem keys_nodup_put {d : Datum} (h : base.keys.Nodup) : (base.put k d).keys.Nodup := by
  induction base with
  | nil => simp [Fields.put, Fields.keys]
  | cons f base ih =>
    obtain ⟨a, e⟩ := f
    obtain ⟨ha, hn⟩ := List.nodup_cons.1 h
    unfold Fields.put
    split
    · next he => exact List.nodup_cons.2 ⟨ha, hn⟩
    · next he =>
      refine List.nodup_cons.2 ⟨fun hmem => ?_, ih hn⟩
      exact ((Fields.mem_keys_put base).1 hmem).elim he ha

theorem keys_nodup_mergeFields (h : base.keys.Nodup) : (mergeFields base top).keys.Nodup := by
  induction top generalizing base with
  | nil => rwa [mergeFields]
  | cons f top ih =>
    rw [mergeFields]
    exact ih (keys_nodup_put h)

end Datum

namespace Declaration

variable {fs gs ws : Fields} {k : Scalar} {d : Datum}

theorem get?_writtenFields : (writtenFields fs ws).get? k =
    (fs.get? k).bind fun d => (ws.find? fun w => fieldName w.1 = k).map fun w =>
      writtenPart d w.2 := by
  induction fs with
  | nil => simp [writtenFields, Fields.get?]
  | cons f fs ih =>
    obtain ⟨a, e⟩ := f
    rw [writtenFields, Fields.get?_cons]
    by_cases h : k = a
    · subst h
      cases hw : ws.find? fun w => fieldName w.1 = k with
      | some w => simp [Fields.get?_cons]
      | none => simp [hw, ih]
    · cases hw : ws.find? fun w => fieldName w.1 = a <;> simp [h, Fields.get?_cons, ih]

def renamed : List String := ["32", "64", "lib32", "lib64"]

theorem fieldName_eq_self_iff {key : String} (h : key ∉ renamed) :
    fieldName k = key ↔ k = key := by
  simp only [renamed, List.mem_cons, not_or] at h
  unfold fieldName
  split <;> grind

theorem find?_fieldName {written : Scalar}
    (h : ∀ w ∈ ws, fieldName w.1 = k ↔ w.1 = written) :
    (ws.find? fun w => fieldName w.1 = k).map (·.2) = ws.get? written := by
  induction ws with
  | nil => rfl
  | cons w ws ih =>
    have hw := h w List.mem_cons_self
    rw [Fields.get?_cons, ← ih fun v hv => h v (List.mem_cons_of_mem _ hv), List.find?_cons]
    by_cases he : w.1 = written
    · rw [decide_eq_true (hw.2 he), if_pos he.symm, Option.map_some]
    · rw [decide_eq_false (mt hw.1 he), if_neg (Ne.symm he)]

theorem sublist_keys_writtenFields : (writtenFields fs ws).keys.Sublist fs.keys := by
  induction fs with
  | nil => simp [writtenFields]
  | cons f fs ih =>
    obtain ⟨a, e⟩ := f
    rw [writtenFields]
    split
    · exact ih.cons_cons _
    · exact ih.cons _

theorem writtenPart_obj : writtenPart (.obj fs) (.obj ws) = .obj (writtenFields fs ws) := by
  rw [writtenPart]

theorem writtenPart_ofStrings (l : List String) (j : Datum) :
    writtenPart (.ofStrings l) j = .ofStrings l := by
  simp [Datum.ofStrings, writtenPart]

theorem writtenPart_scalar (s : Scalar) (j : Datum) :
    writtenPart (.scalar s) j = .scalar s := by
  simp [writtenPart]

end Declaration

namespace Checked

variable {α β : Type} {read : Datum → Checked α}

theorem all_items_map {put : β → Datum} {get : β → α}
    (h : ∀ b, read (put b) = .sound (get b)) (l : List β) (start : Nat) :
    all (items read start (l.map put)) = .sound (l.map get) := by
  induction l generalizing start with
  | nil => rfl
  | cons b l ih => simp [items, all, h, ih, under]

theorem strings_ofStrings (l : List String) : strings (.ofStrings l) = .sound l := by
  have hs : ∀ s, string (.str s) = .sound (id s) := fun _ => rfl
  have h := all_items_map hs l 0
  rw [List.map_id] at h
  exact h

theorem optional_scalar {s : Scalar} (h : s ≠ .null) :
    optional read (.scalar s) = some <$> read (.scalar s) := by
  cases s <;> first | exact absurd rfl h | rfl

end Checked

/-- A kind of value that can be merged in its written form. `Shows` tells the data that stand for a
value: those that are put out for it, and those that merging makes of them. -/
structure Mergeable (α : Type) where
  read : Datum → Checked α
  print : α → Datum
  /-- A value laid over another one. -/
  overlay : α → α → α
  absent : α
  Shows : Datum → α → Prop
  read_eq : ∀ {d a}, Shows d a → read d = .sound a
  merge : ∀ {d e a b}, Shows d a → Shows e b → Shows (Datum.mergeValue d e) (overlay a b)
  written : ∀ {j a}, read j = .sound a → Shows (Declaration.writtenPart (print a) j) a
  absent_overlay : ∀ a, overlay absent a = a
  overlay_absent : ∀ a, overlay a absent = a

namespace Mergeable

open Declaration

def names : Mergeable (List String) where
  read := readDependencies
  print := .ofStrings
  overlay := (· ++ ·)
  absent := []
  Shows d l := d = .ofStrings l ∧ l.findSome? dependencyFault? = none
  read_eq := by
    rintro d l ⟨rfl, hl⟩
    simp [readDependencies, Checked.strings_ofStrings, Checked.andThen, hl]
  merge := by
    rintro d e l m ⟨rfl, hl⟩ ⟨rfl, hm⟩
    exact ⟨Datum.mergeValue_ofStrings l m, by simp [List.findSome?_append, hl, hm]⟩
  written := by
    intro j l h
    refine ⟨writtenPart_ofStrings l j, ?_⟩
    obtain ⟨names, _, h⟩ := Checked.andThen_eq_sound_iff.1 h
    split at h
    · next hn =>
      cases h
      exact hn
    · exact absurd h (Checked.fail_ne_sound _ _)
  absent_overlay := List.nil_append
  overlay_absent := List.append_nil

def single {β : Type} (literal : β → Scalar) (read : Datum → Checked β)
    (hl : ∀ b, literal b ≠ .null) (hr : ∀ b, read (.scalar (literal b)) = .sound b) :
    Mergeable (Option β) where
  read := Checked.optional read
  print o := .ofOption (o.map fun b => .scalar (literal b))
  overlay a b := b.or a
  absent := none
  Shows d o := d = .ofOption (o.map fun b => .scalar (literal b))
  read_eq := by
    rintro _ (_ | b) rfl
    · rfl
    · exact (Checked.optional_scalar (hl b)).trans (by rw [hr b, Checked.map_sound])
  merge := by
    rintro _ _ a (_ | b) rfl rfl
    · exact Datum.mergeValue_null _
    · exact Datum.mergeValue_scalar _ (hl b)
  written := by
    rintro j (_ | b) _
    · exact writtenPart_scalar _ j
    · exact writtenPart_scalar _ j
  absent_overlay o := Option.or_none
  overlay_absent o := Option.none_or

end Mergeable

structure Part (α : Type) where
  {β : Type}
  kind : Mergeable β
  key : String
  value : α → β
  written : Fields → String := fun _ => key

namespace Part

open Declaration

variable {α : Type} {p : Part α} {fs base top full ws : Fields} {a b c : α}

def read (p : Part α) (fs : Fields) : Checked p.β :=
  Checked.field fs (p.written fs) p.kind.absent p.kind.read

def Holds (p : Part α) (fs : Fields) (a : α) : Prop :=
  match fs.get? p.key with
  | none => p.value a = p.kind.absent
  | some d => p.kind.Shows d (p.value a)

def Found (p : Part α) (ws : Fields) : Prop :=
  ∀ k ∈ ws.keys, fieldName k = p.key ↔ k = p.written ws

theorem read_of_holds (h : p.Holds fs a) (hw : p.written fs = p.key) :
    p.read fs = .sound (p.value a) := by
  unfold Holds at h
  unfold read Checked.field
  rw [hw]
  cases hd : fs.get? p.key with
  | none =>
    rw [hd] at h
    exact congrArg Checked.sound h.symm
  | some d =>
    rw [hd] at h
    exact Checked.under_eq_sound_iff.2 (p.kind.read_eq h)

theorem holds_merge (hn : top.keys.Nodup) (ha : p.Holds base a) (hb : p.Holds top b)
    (hc : p.value c = p.kind.overlay (p.value a) (p.value b)) :
    p.Holds (Datum.mergeFields base top) c := by
  unfold Holds at *
  rw [Datum.get?_mergeFields hn, hc]
  cases hd : base.get? p.key with
  | none =>
    rw [hd] at ha
    rwa [ha, p.kind.absent_overlay]
  | some d =>
    rw [hd] at ha
    cases he : top.get? p.key with
    | none =>
      rw [he] at hb
      rwa [hb, p.kind.overlay_absent]
    | some e =>
      rw [he] at hb
      exact p.kind.merge ha hb

theorem find?_of_found (h : p.Found ws) :
    (ws.find? fun w => fieldName w.1 = p.key).map (·.2) = ws.get? (p.written ws) :=
  Declaration.find?_fieldName fun w hw => h w.1 (List.mem_map_of_mem hw)

theorem holds_written (hfull : full.get? p.key = some (p.kind.print (p.value a)))
    (hf : p.Found ws) (hr : p.read ws = .sound (p.value a)) :
    p.Holds (writtenFields full ws) a := by
  have hg : (writtenFields full ws).get? p.key = (ws.get? (p.written ws)).map
      (writtenPart (p.kind.print (p.value a))) := by
    rw [get?_writtenFields, hfull, ← find?_of_found hf, Option.map_map]
    rfl
  unfold Holds
  rw [hg]
  unfold read Checked.field at hr
  cases hw : ws.get? (p.written ws) with
  | none =>
    rw [hw] at hr
    exact ((Checked.sound.injEq _ _).mp hr).symm
  | some j =>
    rw [hw] at hr
    exact p.kind.written (Checked.under_eq_sound_iff.1 hr)

def Plain (p : Part α) : Prop :=
  (∀ fs, p.written fs = p.key) ∧ p.key ∉ renamed

theorem Plain.found (h : p.Plain) : p.Found ws := by
  intro k _
  rw [h.1]
  exact fieldName_eq_self_iff h.2

end Part

structure Record (α : Type) where
  parts : List (Part α)
  read : Datum → Checked α
  overlay : α → α → α
  absent : α
  read_eq_iff : ∀ {j a}, read j = .sound a ↔ ∃ fs, j = .obj fs ∧
    (∀ p ∈ parts, p.read fs = .sound (p.value a)) ∧
    Checked.noOthers fs (parts.map (·.written fs)) = .sound ()
  value_overlay : ∀ {a b}, ∀ p ∈ parts,
    p.value (overlay a b) = p.kind.overlay (p.value a) (p.value b)
  value_absent : ∀ p ∈ parts, p.value absent = p.kind.absent
  ext : ∀ {a b}, (∀ p ∈ parts, p.value a = p.value b) → a = b
  nodup_keys : (parts.map (·.key)).Nodup
  /-- Where only long names are written, fields are read under them. -/
  written_eq : ∀ {fs : Fields}, (∀ k ∈ fs.keys, ∃ q ∈ parts, k = .str q.key) →
    ∀ p ∈ parts, p.written fs = p.key
  found : ∀ {ws}, Checked.noOthers ws (parts.map (·.written ws)) = .sound () →
    ∀ p ∈ parts, p.Found ws

namespace Record

open Declaration

variable {α : Type} (r : Record α) {fs base top ws : Fields} {a b : α}

def toFields (a : α) : Fields := r.parts.map fun p => (.str p.key, p.kind.print (p.value a))

def Holds (fs : Fields) (a : α) : Prop := ∀ p ∈ r.parts, p.Holds fs a

def Shows (d : Datum) (a : α) : Prop :=
  ∃ fs : Fields, d = .obj fs ∧ fs.keys.Nodup ∧ (∀ k ∈ fs.keys, ∃ q ∈ r.parts, k = .str q.key) ∧
    r.Holds fs a

variable {r}

theorem keys_toFields : (r.toFields a).keys = r.parts.map fun p => .str p.key := by
  simp [Fields.keys, toFields]

theorem nodup_keys_toFields : (r.toFields a).keys.Nodup := by
  have h := List.Nodup.map (fun _ _ => Scalar.str.inj) r.nodup_keys
  rw [keys_toFields]
  rwa [List.map_map] at h

theorem get?_toFields {p : Part α} (hp : p ∈ r.parts) :
    (r.toFields a).get? p.key = some (p.kind.print (p.value a)) :=
  Fields.get?_eq_some_of_mem nodup_keys_toFields (List.mem_map_of_mem hp)

theorem holds_merge (hn : top.keys.Nodup) (ha : r.Holds base a) (hb : r.Holds top b) :
    r.Holds (Datum.mergeFields base top) (r.overlay a b) := fun p hp =>
  Part.holds_merge hn (ha p hp) (hb p hp) (r.value_overlay p hp)

theorem holds_written (own : Fields) (hf : ∀ p ∈ r.parts, p.Found ws)
    (hr : ∀ p ∈ r.parts, p.read ws = .sound (p.value a)) :
    r.Holds (writtenFields (r.toFields a ++ own) ws) a := by
  intro p hp
  refine Part.holds_written ?_ (hf p hp) (hr p hp)
  rw [Fields.get?_append, get?_toFields hp, Option.some_or]

theorem shows_empty : r.Shows (.obj []) r.absent :=
  ⟨[], rfl, List.nodup_nil, List.forall_mem_nil _, r.value_absent⟩

theorem shows_merge {d e : Datum} (ha : r.Shows d a) (hb : r.Shows e b) :
    r.Shows (Datum.mergeValue d e) (r.overlay a b) := by
  obtain ⟨base, rfl, hn, hk, ha⟩ := ha
  obtain ⟨top, rfl, hm, hl, hb⟩ := hb
  refine ⟨_, Datum.mergeValue_obj, Datum.keys_nodup_mergeFields hn, fun k hmem => ?_,
    holds_merge hm ha hb⟩
  exact ((Datum.mem_keys_mergeFields _ _).1 hmem).elim (hk k) (hl k)

theorem shows_written (hf : ∀ p ∈ r.parts, p.Found ws)
    (hr : ∀ p ∈ r.parts, p.read ws = .sound (p.value a)) :
    r.Shows (writtenPart (.obj (r.toFields a)) (.obj ws)) a := by
  have hs : (writtenFields (r.toFields a) ws).keys.Sublist (r.toFields a).keys :=
    sublist_keys_writtenFields
  have hh := holds_written [] hf hr
  rw [List.append_nil] at hh
  refine ⟨_, writtenPart_obj, hs.nodup nodup_keys_toFields, fun k hk => ?_, hh⟩
  simpa [keys_toFields, eq_comm] using hs.subset hk

theorem read_of_shows {d : Datum} (h : r.Shows d a) : r.read d = .sound a := by
  obtain ⟨fs, rfl, -, hk, h⟩ := h
  have hw := r.written_eq hk
  refine r.read_eq_iff.2 ⟨fs, rfl, fun p hp => Part.read_of_holds (h p hp) (hw p hp),
    Checked.noOthers_eq_sound_iff.2 fun k hmem => ?_⟩
  obtain ⟨q, hq, rfl⟩ := hk k hmem
  exact ⟨q.key, List.mem_map.2 ⟨q, hq, hw q hq⟩, rfl⟩

def mergeable (r : Record α) : Mergeable α where
  read := r.read
  print a := .obj (r.toFields a)
  overlay := r.overlay
  absent := r.absent
  Shows := r.Shows
  read_eq := read_of_shows
  merge := shows_merge
  written := by
    intro j a h
    obtain ⟨ws, rfl, hr, ho⟩ := r.read_eq_iff.1 h
    exact shows_written (r.found ho) hr
  absent_overlay a := r.ext fun p hp => by
    rw [r.value_overlay p hp, r.value_absent p hp, p.kind.absent_overlay]
  overlay_absent a := r.ext fun p hp => by
    rw [r.value_overlay p hp, r.value_absent p hp, p.kind.overlay_absent]

end Record

end BundleWright
