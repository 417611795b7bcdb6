import BundleWright.Datum
/-!
Merging property dictionaries. Lists are concatenated, dictionaries merged in depth, and any other
value of the second dictionary wins unless it is null. Main statement: the keys of a merge are the
keys of both sides.
-/
namespace BundleWright.Datum

mutual

def mergeValue (base top : Datum) : Datum :=
  match base, top with
  | .arr xs, .arr ys => .arr (xs ++ ys)
  | .obj xs, .obj ys => .obj (mergeFields xs ys)
  | base, .null => base
  | _, top => top
  termination_by (sizeOf top, 0)

/-- The fields of `base` with those of `top` merged in one after another. -/
def mergeFields (base top : Fields) : Fields :=
  match top with
  | [] => base
  | (k, v) :: rest =>
    let merged := match base.get? k with
      | none => v
      | some current => mergeValue current v
    mergeFields (base.put k merged) rest
  termination_by (sizeOf top, 1)

end

theorem mem_keys_mergeFields {k : Scalar} (base top : Fields) :
    k ∈ Fields.keys (mergeFields base top) ↔ k ∈ base.keys ∨ k ∈ top.keys := by
  induction top generalizing base with
  | nil => simp [mergeFields, Fields.keys]
  | cons kv rest ih =>
    obtain ⟨a, v⟩ := kv
    rw [mergeFields, ih, Fields.mem_keys_put]
    simp only [Fields.keys, List.map_cons, List.mem_cons]
    grind

end BundleWright.Datum
