import BundleWright.Proofs.Path.Join
import BundleWright.Proofs.Path.Order
import BundleWright.Proofs.Text.Order
/-!
Listing the modes of entries that nobody has checked. Main statement: going up from directory after
directory comes to an end, and lists an executable with its links, the directories above an entry
and any other entry, each once, in order, and in the part it belongs to.
-/
namespace BundleWright

open BundleWright.Path

namespace ImageEntry

variable {e : ImageEntry} {t : String}

def AmongExecutables (e : ImageEntry) : Prop :=
  e.installDir = "bin" ∨ "bin/".toList <+: e.installDir.toList

theorem isExecutable_iff : e.isExecutable = true ↔ e.AmongExecutables := by
  rw [AmongExecutables, ← List.isPrefixOf_iff_prefix]
  simp [isExecutable, executablesDir]

def ownExecutables (e : ImageEntry) : List String :=
  if e.isExecutable then e.pathInBundle :: e.linkPaths else []

theorem executablePaths_eq (e : ImageEntry) :
    e.executablePaths = e.ownExecutables ++ e.directories := rfl

theorem mem_readOnlyPaths : t ∈ e.readOnlyPaths ↔ ¬e.AmongExecutables ∧ e.pathInBundle = t := by
  rw [← isExecutable_iff, readOnlyPaths]
  cases e.isExecutable <;> simp [eq_comm]

theorem mem_linkPaths :
    t ∈ e.linkPaths ↔ ∃ s ∈ e.symlinks, (ofString (joinedText e.installDir s)).text = t := by
  simp only [linkPaths, List.mem_map, ofString_joinedText]
  rfl

theorem mem_ownExecutables :
    t ∈ e.ownExecutables ↔ e.AmongExecutables ∧ (e.pathInBundle = t ∨ t ∈ e.linkPaths) := by
  rw [← isExecutable_iff, ownExecutables]
  cases e.isExecutable <;> simp [eq_comm]

theorem mem_directories :
    t ∈ e.directories ↔ t ∉ [".", "/", "//"] ∧ ∃ d : Path,
      (d = ofString e.installDir ∨ Above d (ofString e.installDir)) ∧ d.text = t := by
  simp only [directories, List.mem_map, mem_dropLast_lineage_iff, ← mem_lineage_iff_above,
    mem_lineage_iff]
  constructor
  · rintro ⟨d, ⟨hr, hs, hne⟩, rfl⟩
    exact ⟨mt text_mem_iff.1 hne, d, ⟨hr, hs⟩, rfl⟩
  · rintro ⟨ht, d, ⟨hr, hs⟩, rfl⟩
    exact ⟨d, ⟨hr, hs, mt text_mem_iff.2 ht⟩, rfl⟩

end ImageEntry

namespace AccessModes

/-- Where the listing stands between two turns: the entries to come, the directory that the way up
has come to, and the texts listed so far. -/
structure Listing where
  pending : List ImageEntry
  directory : Path
  readOnly : List String
  executable : List String

namespace Listing

variable {a b : Listing} {n : Nat} {m : AccessModes}

def start (entries : List ImageEntry) : Listing := ⟨entries, .here, [], []⟩

def modes (a : Listing) : AccessModes := ⟨sortedOnce a.readOnly, sortedOnce a.executable⟩

/-- One turn: where the directory is its own parent the next entry is taken, and otherwise the
directory is listed and left for its parent. -/
def turn : Listing → Option Listing
  | ⟨pending, d, readOnly, executable⟩ =>
    if d = d.parent then
      match pending with
      | [] => none
      | e :: rest => some ⟨rest, ofString e.installDir, readOnly ++ e.readOnlyPaths,
          executable ++ e.ownExecutables⟩
    else some ⟨pending, d.parent, readOnly, executable ++ [d.text]⟩

inductive Ends : Nat → Listing → AccessModes → Prop
  | done {a : Listing} : a.turn = none → Ends 0 a a.modes
  | turn {a b : Listing} {n : Nat} {m : AccessModes} : a.turn = some b → Ends n b m →
      Ends (n + 1) a m

def turnsLeft (a : Listing) : Nat :=
  a.directory.parts.length +
    ((a.pending.flatMap fun e => (ofString e.installDir).parts).length + a.pending.length)

def outcome (a : Listing) : AccessModes where
  readOnly := sortedOnce (a.readOnly ++ a.pending.flatMap ImageEntry.readOnlyPaths)
  executable := sortedOnce (a.executable ++ a.directory.lineage.dropLast.map text ++
    a.pending.flatMap ImageEntry.executablePaths)

theorem of_turn_eq_none (h : a.turn = none) : a.turnsLeft = 0 ∧ a.outcome = a.modes := by
  obtain ⟨pending, d, readOnly, executable⟩ := a
  simp only [turn] at h
  split at h
  · next hd =>
    have hparts : d.parts = [] := parent_eq_self_iff.1 hd.symm
    cases pending with
    | nil => simp [turnsLeft, outcome, modes, hparts, lineage_of_nil]
    | cons e rest => cases h
  · cases h

/-- A turn takes one from what is left and nothing from the outcome. -/
theorem of_turn_eq_some (h : a.turn = some b) :
    a.turnsLeft = b.turnsLeft + 1 ∧ a.outcome = b.outcome := by
  obtain ⟨pending, d, readOnly, executable⟩ := a
  simp only [turn] at h
  split at h
  · next hd =>
    have hparts : d.parts = [] := parent_eq_self_iff.1 hd.symm
    cases pending with
    | nil => cases h
    | cons e rest =>
      cases h
      constructor
      · simp only [turnsLeft, hparts, List.flatMap_cons, List.length_append, List.length_cons,
          List.length_nil]
        omega
      · simp [outcome, hparts, lineage_of_nil, ImageEntry.executablePaths_eq,
          ImageEntry.directories]
  · next hd =>
    have hparts : d.parts ≠ [] := mt parent_eq_self_iff.2 (Ne.symm hd)
    have hpos := List.length_pos_iff.2 hparts
    cases h
    constructor
    · simp only [turnsLeft, parent_parts, List.length_dropLast]
      omega
    · simp [outcome, lineage_of_ne_nil hparts, List.dropLast_cons_of_ne_nil (lineage_ne_nil _)]

theorem ends_outcome (a : Listing) : Ends a.turnsLeft a a.outcome := by
  cases ht : a.turn with
  | none =>
    obtain ⟨hleft, hout⟩ := of_turn_eq_none ht
    rw [hleft, hout]
    exact .done ht
  | some b =>
    obtain ⟨hleft, hout⟩ := of_turn_eq_some ht
    rw [hleft, hout]
    exact .turn ht (ends_outcome b)
  termination_by a.turnsLeft
  decreasing_by omega

theorem ends_iff : Ends n a m ↔ n = a.turnsLeft ∧ m = a.outcome := by
  constructor
  · intro h
    induction h with
    | done ht =>
      obtain ⟨hleft, hout⟩ := of_turn_eq_none ht
      exact ⟨hleft.symm, hout.symm⟩
    | turn ht _ ih =>
      obtain ⟨hleft, hout⟩ := of_turn_eq_some ht
      exact ⟨by rw [hleft, ih.1], by rw [hout, ih.2]⟩
  · rintro ⟨rfl, rfl⟩
    exact ends_outcome a

theorem turnsLeft_start (entries : List ImageEntry) : (start entries).turnsLeft =
    (entries.flatMap fun e => (ofString e.installDir).parts).length + entries.length := by
  simp [turnsLeft, start, here]

theorem outcome_start (entries : List ImageEntry) :
    (start entries).outcome = ofEntries entries := by
  simp [outcome, start, ofEntries, lineage_of_nil, here]

end Listing

variable {entries others : List ImageEntry} {t : String}

theorem mem_readOnly_ofEntries :
    t ∈ (ofEntries entries).readOnly ↔
      ∃ e ∈ entries, ¬e.AmongExecutables ∧ e.pathInBundle = t := by
  simp only [ofEntries, Text.mem_sortedOnce, List.mem_flatMap, ImageEntry.mem_readOnlyPaths]

theorem mem_executable_ofEntries :
    t ∈ (ofEntries entries).executable ↔
      (∃ e ∈ entries, e.AmongExecutables ∧ (e.pathInBundle = t ∨
        ∃ s ∈ e.symlinks, (ofString (joinedText e.installDir s)).text = t)) ∨
      t ∉ [".", "/", "//"] ∧ ∃ e ∈ entries, ∃ d : Path,
        (d = ofString e.installDir ∨ Above d (ofString e.installDir)) ∧ d.text = t := by
  have hpaths : t ∈ (ofEntries entries).executable ↔
      (∃ e ∈ entries, t ∈ e.ownExecutables) ∨ ∃ e ∈ entries, t ∈ e.directories := by
    simp only [ofEntries, Text.mem_sortedOnce, List.mem_flatMap, ImageEntry.executablePaths_eq,
      List.mem_append, and_or_left, exists_or]
  simp only [hpaths, ImageEntry.mem_ownExecutables, ImageEntry.mem_linkPaths,
    ImageEntry.mem_directories]
  refine or_congr_right ⟨?_, ?_⟩
  · rintro ⟨e, he, ht, hd⟩
    exact ⟨ht, e, he, hd⟩
  · rintro ⟨ht, e, he, hd⟩
    exact ⟨e, he, ht, hd⟩

theorem ofEntries_eq_of_mem_iff (h : ∀ e, e ∈ others ↔ e ∈ entries) :
    ofEntries others = ofEntries entries := by
  have hsame (paths : ImageEntry → List String) :
      sortedOnce (others.flatMap paths) = sortedOnce (entries.flatMap paths) := by
    refine Text.sortedOnce_eq_iff.2 ⟨Text.pairwise_lt_sortedOnce _, fun t ht => ?_, fun t ht => ?_⟩
    · simpa only [Text.mem_sortedOnce, List.mem_flatMap, h] using ht
    · simpa only [Text.mem_sortedOnce, List.mem_flatMap, h] using ht
  simp only [ofEntries, hsame]

/-- Whatever directories, paths and links the entries have, listing their modes comes to its end in a
turn for each component of their directories and one for each entry. It leaves two lists in strict
order, in one the executables with their links and the directories above all entries, in the other
the other entries; where in the list an entry stands and how often makes no difference. -/
theorem listing_exact (entries : List ImageEntry) :
    (∀ n m, Listing.Ends n (Listing.start entries) m ↔
      n = (entries.flatMap fun e => (ofString e.installDir).parts).length + entries.length ∧
        m = ofEntries entries) ∧
      (ofEntries entries).readOnly.Pairwise (· < ·) ∧
      (ofEntries entries).executable.Pairwise (· < ·) ∧
      (∀ t, t ∈ (ofEntries entries).readOnly ↔
        ∃ e ∈ entries, ¬e.AmongExecutables ∧ e.pathInBundle = t) ∧
      (∀ t, t ∈ (ofEntries entries).executable ↔
        (∃ e ∈ entries, e.AmongExecutables ∧ (e.pathInBundle = t ∨
          ∃ s ∈ e.symlinks, (ofString (joinedText e.installDir s)).text = t)) ∨
        t ∉ [".", "/", "//"] ∧ ∃ e ∈ entries, ∃ d : Path,
          (d = ofString e.installDir ∨ Above d (ofString e.installDir)) ∧ d.text = t) ∧
      ∀ others, (∀ e, e ∈ others ↔ e ∈ entries) → ofEntries others = ofEntries entries := by
  refine ⟨fun n m => ?_, Text.pairwise_lt_sortedOnce _, Text.pairwise_lt_sortedOnce _,
    fun t => mem_readOnly_ofEntries, fun t => mem_executable_ofEntries,
    fun _ => ofEntries_eq_of_mem_iff⟩
  rw [Listing.ends_iff, Listing.turnsLeft_start, Listing.outcome_start]

def strays : List ImageEntry :=
  [⟨"/tmp/escape", "/tmp/escape/evil.conf", []⟩, ⟨"bin//../..", "tool", ["/up//on", "../x", ""]⟩,
    ⟨"//srv/./a", "", ["unused"]⟩, ⟨"", "top", []⟩, ⟨"./bin", "near", []⟩]

def straysModes : AccessModes :=
  ⟨["", "/tmp/escape/evil.conf", "near", "top"],
    ["//srv", "//srv/a", "/tmp", "/tmp/escape", "/up/on", "bin", "bin/..", "bin/../..",
      "bin/../../../x", "tool"]⟩

theorem listing_exact_strays :
    (∀ e, e ∈ strays.reverse ++ strays ↔ e ∈ strays) ∧
      Listing.Ends 13 (Listing.start strays) straysModes ∧
      ofEntries (strays.reverse ++ strays) = straysModes := by
  have hmem : ∀ e, e ∈ strays.reverse ++ strays ↔ e ∈ strays := by simp
  have hreadOnly : sortedOnce (strays.flatMap ImageEntry.readOnlyPaths) = straysModes.readOnly :=
    Text.sortedOnce_eq_iff.2 (by decide +kernel)
  have hexecutable : sortedOnce (strays.flatMap ImageEntry.executablePaths) =
      straysModes.executable := Text.sortedOnce_eq_iff.2 (by decide +kernel)
  have hmodes : ofEntries strays = straysModes := by rw [ofEntries, hreadOnly, hexecutable]
  obtain ⟨hends, _, _, _, _, hsame⟩ := listing_exact strays
  exact ⟨hmem, (hends 13 _).2 ⟨by decide +kernel, hmodes.symm⟩, (hsame _ hmem).trans hmodes⟩

end AccessModes

end BundleWright
