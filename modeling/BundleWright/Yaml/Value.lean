import BundleWright.Yaml.Node
import BundleWright.Yaml.Scalar
/-!
From the nodes of a YAML document to the value it stands for. A collection is filled after the
collection around it, so of several faults the least deep one counts, and of those the first.
-/
namespace BundleWright.Yaml

structure Meaning where
  value : Datum
  /-- What is wrong with the node where it stands. -/
  fault : Option Fault := none
  /-- What is wrong inside it, and how deep. -/
  inner : Option (Nat × Fault) := none

namespace Meaning

def ofReading : Reading Scalar → Meaning
  | .ok s => ⟨.scalar s, none, none⟩
  | .error fault => ⟨.null, some fault, none⟩

def broken (value : Datum) : Meaning := ⟨value, none, some (0, .malformed)⟩

def lessDeep (a b : Option (Nat × Fault)) : Option (Nat × Fault) :=
  match a, b with
  | some a, some b => some (if b.1 < a.1 then b else a)
  | a, b => a.or b

/-- A collection that is filled from its parts, or stopped by the first fault among theirs. -/
def collection (value : Datum) (fault : Option Fault) (parts : List Meaning) : Meaning :=
  match fault with
  | some fault => ⟨value, none, some (0, fault)⟩
  | none =>
    let deepest := parts.foldl (fun best m => lessDeep best m.inner) none
    ⟨value, none, deepest.map fun p => (p.1 + 1, p.2)⟩

def ofList (parts : List Meaning) : Meaning :=
  collection (.arr (parts.map (·.value))) (parts.findSome? (·.fault)) parts

def key? (m : Meaning) : Option Scalar :=
  match m.value with
  | .scalar s => some s
  | _ => none

end Meaning

abbrev Entries := List (Meaning × Meaning)

namespace Entries

def parts (entries : Entries) : List Meaning := entries.flatMap fun e => [e.1, e.2]

/-- What is wrong with the first bad entry; a key has to be a scalar. -/
def fault? (entries : Entries) : Option Fault :=
  entries.findSome? fun (k, v) =>
    (k.fault.or (if k.key?.isNone then some .malformed else none)).or v.fault

/-- The fields that entries make up; a repeated key keeps its place and takes the last value. -/
def fields (entries : Entries) : Fields :=
  entries.foldl (fun fields e => fields.putSame (e.1.key?.getD .null) e.2.value) []

def toMap (entries : Entries) : Meaning :=
  .collection (.obj entries.fields) entries.fault? entries.parts

def toSet (entries : Entries) : Meaning :=
  .collection (.group .set (entries.fields.keys.map .scalar)) entries.fault? entries.parts

end Entries

inductive Build where
  | scalar (codes : List Nat)
  | sequence (items : List (Meaning × Build))
  /-- The entries as they are written, and after merging, if nothing else than mappings is merged. -/
  | mapping (text : Option (List Nat)) (plain : Entries) (merged : Option Entries)

namespace Build

/-- The text of a scalar, or of the value of a mapping as a whole. -/
def text? : Build → Option (List Nat)
  | scalar codes => some codes
  | sequence _ => none
  | mapping text _ _ => text

def entries? : Build → Option Entries
  | mapping _ _ merged => merged
  | _ => none

/-- The entries that are merged into a mapping: those of a mapping, or of several, of which the last
comes first. -/
def mergeable : Build → Option Entries
  | sequence items => do
    let parts ← items.mapM fun item : Meaning × Build => item.2.entries?
    return parts.reverse.flatten
  | b => b.entries?

/-- The one entry of a mapping as a pair, if it is a mapping of one entry. -/
def pair? : Build → Option (Meaning × Meaning)
  | mapping _ [entry] _ => some entry
  | _ => none

/-- A list of pairs. Its faults show in the order of the items; an item that is not a mapping of one
entry is one. -/
def toPairs (items : List (Meaning × Build)) : Meaning :=
  let pairs := items.map fun item => item.2.pair?
  let fault := pairs.findSome? fun
    | some (k, v) => k.fault.or v.fault
    | none => some .malformed
  let known := pairs.filterMap id
  .collection (.arr (known.map fun e => .group .tuple [e.1.value, e.2.value])) fault
    (Entries.parts known)

def meaning (tag : Tag) (b : Build) : Meaning :=
  match tag, b with
  | .seq, sequence items => .ofList (items.map (·.1))
  | .seq, _ => .broken (.arr [])
  | .map, mapping _ _ (some merged) => merged.toMap
  | .map, _ => .broken (.obj [])
  | .set, mapping _ _ (some merged) => merged.toSet
  | .set, _ => .broken (.group .set [])
  | .omap, sequence items | .pairs, sequence items => toPairs items
  | .omap, _ | .pairs, _ => .broken (.arr [])
  | tag, b =>
    match tag with
    | .merge | .value | .other _ => .ofReading (.error (.unknownTag tag.uri))
    | tag =>
      match b.text? with
      | some codes => .ofReading (scalarValue tag codes)
      | none => .ofReading (.error .malformed)

end Build

mutual

def build : Node → Build
  | .scalar _ codes => .scalar codes
  | .sequence _ items => .sequence (buildItems items)
  | .mapping _ entries =>
    let built := buildEntries entries
    let plain := built.map fun e => (e.1.2.meaning e.1.1, e.2.2.meaning e.2.1)
    let text := (built.find? (·.1.1 = .value)).bind (·.2.2.text?)
    let merges := (built.filter (·.1.1 = .merge)).mapM (·.2.2.mergeable)
    let own := (built.filter (·.1.1 ≠ .merge)).map fun e =>
      (e.1.2.meaning (if e.1.1 = .value then .str else e.1.1), e.2.2.meaning e.2.1)
    .mapping text plain (merges.map fun merges => merges.flatten ++ own)

def buildItems : List Node → List (Meaning × Build)
  | [] => []
  | n :: ns =>
    let b := build n
    (b.meaning n.tag, b) :: buildItems ns

def buildEntries : List (Node × Node) → List ((Tag × Build) × (Tag × Build))
  | [] => []
  | (k, v) :: rest => ((k.tag, build k), (v.tag, build v)) :: buildEntries rest

end

def Node.meaning (n : Node) : Meaning := (build n).meaning n.tag

def Node.value (n : Node) : Reading Datum :=
  let m := n.meaning
  match m.fault.or (m.inner.map (·.2)) with
  | some fault => .error fault
  | none => .ok m.value

end BundleWright.Yaml
