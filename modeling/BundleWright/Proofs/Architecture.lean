import BundleWright.Proofs.Links
/-!
What a bundle embeds is built for it. Main statement: the native code in a bundle is of the image
that the bundle asks for and of one of its targets, and a library that comes along has been reached
from a module asked for that target, through modules built for the same target and image.
-/
namespace BundleWright

open Relation

def ModuleGraph.NeedsAlike (g : ModuleGraph) (x y : NodeKey) : Prop :=
  (∃ e ∈ g.dependencies x, e.child = y) ∧ ∃ n m, g.node? x = some n ∧ g.node? y = some m ∧
    n.target = m.target ∧ n.image = m.image

/-- Whether a request of a bundle for the architecture of a target leads to a node. -/
def BundleModule.AsksFor (g : ModuleGraph) (b : BundleModule) (s : Settings) (t : Target)
    (k : NodeKey) : Prop :=
  ∃ r ∈ b.requests s, r.arch? = some t.variantName ∧
    ∃ m, g.find? r.name r.selector = some m ∧ m.id = k

theorem ModuleGraph.alike_of_way {g : ModuleGraph} {x y : NodeKey} {n m : Node}
    (h : ReflTransGen g.NeedsAlike x y) (hx : g.node? x = some n) (hy : g.node? y = some m) :
    n.target = m.target ∧ n.image = m.image := by
  induction h generalizing m with
  | refl =>
    rw [hx] at hy
    cases hy
    exact ⟨rfl, rfl⟩
  | tail _ hstep ih =>
    obtain ⟨_, u, v, hu, hv, htarget, himage⟩ := hstep
    rw [hv] at hy
    cases hy
    obtain ⟨ht, hi⟩ := ih hu
    exact ⟨ht.trans htarget, hi.trans himage⟩

theorem Carried.isNative {setSystemApart : Bool} {n : Node} {l : NativeLibrary}
    (h : Carried setSystemApart n l) : n.isNative = true := by simp [Node.isNative, h.kind]

theorem Node.bundle?_of_isNative {n : Node} (h : n.isNative = true) : n.bundle? = none := by
  unfold isNative at h
  unfold bundle?
  split at h <;> simp_all

theorem Opens.bundle? {setSystemApart : Bool} {tag : Tag} {n : Node}
    (h : Opens setSystemApart tag n) : n.bundle? = none := by
  cases h with
  | library hk | binary hk | translated hk | java hk | prebuilt hk => simp [Node.bundle?, hk]

theorem Brings.tag_of_isNative {tag : Tag} {n : Node} {p : Path} (h : Brings tag n p)
    (hn : n.isNative = true) : tag = .sharedLib ∨ tag = .executable := by
  cases h with
  | java hk | prebuilt hk => simp [Node.isNative, hk] at hn
  | library => exact .inl rfl
  | _ => exact .inr rfl

theorem Opens.tag_of_isNative {setSystemApart : Bool} {tag : Tag} {n : Node}
    (h : Opens setSystemApart tag n) (hn : n.isNative = true) :
    tag = .sharedLib ∨ tag = .executable := by
  cases h with
  | java hk | prebuilt hk => simp [Node.isNative, hk] at hn
  | library => exact .inl rfl
  | _ => exact .inr rfl

namespace Workspace

variable {doc : Datum} {ds : List Declaration} {s₀ s : Settings} {dir : Path} {w w' : Workspace}
  {tree : FileTree} {names : List String} {a : Assembly} {o : Outcome} {plan : Plan}

section Assembled

variable (hs : w.Sound) (hw : ofDeclarations ds s₀ dir = .ok w) (hg : w.Assembled s w')
include hs hw hg

/-- A step along which a library comes in joins modules of one target and one image. -/
theorem needsAlike_of_bringsAlong {setSystemApart : Bool} {x y : NodeKey} {n : Node}
    (hx : w'.graph.node? x = some n) (hb : n.bundle? = none)
    (h : BringsAlong w'.graph setSystemApart x y) :
    n.isNative = true ∧ w'.graph.NeedsAlike x y := by
  obtain ⟨⟨e, he, rfl⟩, m, l, hm, hl⟩ := h
  obtain ⟨hedge, rfl⟩ := hg.settled.mem_dependencies_iff.1 he
  obtain ⟨c, hlink⟩ := hg.exists_linked hs hedge hx hb
  have hc := hlink.child
  rw [hm, Option.some.injEq] at hc
  subst hc
  obtain ⟨ht, hnative⟩ := alike_of_linked hw hg.members hlink
  obtain ⟨hn, hi⟩ := hnative hl.isNative
  exact ⟨hn, ⟨e, he, rfl⟩, n, m, hx, hm, ht, hi⟩

theorem needsAlike_of_way {setSystemApart : Bool} {x y : NodeKey} {n : Node}
    (hx : w'.graph.node? x = some n) (hb : n.bundle? = none)
    (h : TransGen (BringsAlong w'.graph setSystemApart) x y) :
    n.isNative = true ∧ TransGen w'.graph.NeedsAlike x y := by
  induction h with
  | single hstep =>
    obtain ⟨hn, hstep⟩ := needsAlike_of_bringsAlong hs hw hg hx hb hstep
    exact ⟨hn, .single hstep⟩
  | @tail u v hway hstep ih =>
    obtain ⟨_, _, m, l, hm, hl⟩ : ∃ z, BringsAlong w'.graph setSystemApart z u := by
      cases hway with
      | single h => exact ⟨_, h⟩
      | tail _ h => exact ⟨_, h⟩
    have hbundle := Node.bundle?_of_isNative hl.isNative
    exact ⟨ih.1, ih.2.tail (needsAlike_of_bringsAlong hs hw hg hm hbundle hstep).2⟩

theorem asksFor_of_mem_dependencies {b : BundleModule} (hb : b ∈ w.bundles) {e : Edge}
    (he : e ∈ w'.graph.dependencies b.id) (htag : e.tag = .sharedLib ∨ e.tag = .executable)
    {n : Node} (hn : w'.graph.node? e.child = some n) (hnative : n.isNative = true) :
    n.image = b.requestedImage s ∧ n.target ∈ b.node.targets ∧
      b.AsksFor w'.graph s n.target e.child := by
  rw [hg.dependencies b hb, ← ModuleGraph.bundleEdges_congr hg.members] at he
  obtain ⟨r, hr, he⟩ := List.mem_filterMap.1 he
  obtain ⟨m, hm, rfl⟩ := Request.mem_edge?_iff.1 he
  obtain ⟨hmem, _, hagrees⟩ := ModuleGraph.find?_name hm
  have hnode := hg.settled.node?_eq hmem
  rw [hn, Option.some.injEq] at hnode
  subst hnode
  obtain ⟨_, _, _, hdecl⟩ := hg.exists_declaration hw hn
  have hbnode : w'.graph.node? b.id = some b.toNode := by
    rw [ModuleGraph.node?_congr hg.members, hs.bundles b hb]
  obtain ⟨_, _, _, hdeclb⟩ := hg.exists_declaration hw hbnode
  have htargets : b.node.targets = s₀.targetList := hdeclb.targets_of_bundle rfl
  have hreq : r ∈ b.requests s := by
    rcases BundleModule.mem_allRequests hr with h | ⟨_, _, rfl⟩ | ⟨_, _, rfl⟩
    · exact h
    · simp [ModuleGraph.wholeRequest] at htag
    · simp [ModuleGraph.wholeRequest] at htag
  rcases BundleModule.forTarget_or_java_of_mem_requests hreq with ⟨t, ht, hfor⟩ | ⟨name, rfl⟩
  · have htarget : m.node.target = t := by
      have harch : ("arch", t.variantName) ∈ r.selector := by
        cases hfor <;> exact List.mem_cons_self
      exact TargetOs.eq_of_variantName_eq hdecl.target_mem (s₀.mem_targets (htargets ▸ ht))
        (Node.variantName_of_agrees hagrees harch)
    have himage : m.node.image = b.requestedImage s := by
      have hi : ("image", b.requestedImage s) ∈ r.selector := by
        cases hfor with
        | prebuilt => simp [Request.prebuilt] at htag
        | _ => simp [Request.library, Request.executable]
      exact Node.image_of_agrees hagrees hnative hi
    exact ⟨himage, htarget ▸ ht, r, hreq, by rw [hfor.arch?, htarget], m, hm, rfl⟩
  · simp [Request.java] at htag

/-- A library that comes along below a direct dependency is built for the target and the image that
the dependency was asked for. -/
theorem asksFor_of_way {b : BundleModule} (hb : b ∈ w.bundles) {e : Edge}
    (he : e ∈ w'.graph.dependencies b.id) {n : Node} (hn : w'.graph.node? e.child = some n)
    (hopen : Opens b.setsSystemApart e.tag n) {y : NodeKey} {m : Node}
    (hm : w'.graph.node? y = some m)
    (hway : TransGen (BringsAlong w'.graph b.setsSystemApart) e.child y) :
    m.image = b.requestedImage s ∧ m.target ∈ b.node.targets ∧
      b.AsksFor w'.graph s m.target e.child ∧ TransGen w'.graph.NeedsAlike e.child y := by
  obtain ⟨hnative, halike⟩ := needsAlike_of_way hs hw hg hn hopen.bundle? hway
  obtain ⟨himage, htarget, hasks⟩ :=
    asksFor_of_mem_dependencies hs hw hg hb he (hopen.tag_of_isNative hnative) hn hnative
  obtain ⟨ht, hi⟩ := ModuleGraph.alike_of_way halike.to_reflTransGen hn hm
  exact ⟨hi ▸ himage, ht ▸ htarget, ht ▸ hasks, halike⟩

end Assembled

/-- The native code in a bundle is of the image the bundle asks for, and of one of its targets. It
has been reached from a node that a request for that target leads to, by a way through modules of
that target and image; and so has every library at the end of every way that brings one in. -/
theorem built_as_requested (hd : Declaration.readDocument doc = .sound ds)
    (hw : ofDeclarations ds s₀ dir = .ok w) (ha : w.assemble s tree names = (w', .ok a))
    (ho : o ∈ a.outcomes) (hp : o.result = .ok plan) :
    (∀ f ∈ plan.files, ∃ n, f.owner = some n.key ∧ w'.graph.node? n.key = some n ∧
      (n.isNative = true →
        n.image = o.bundle.requestedImage s ∧ n.target ∈ o.bundle.node.targets ∧
          ∃ start, o.bundle.AsksFor w'.graph s n.target start ∧
            ReflTransGen w'.graph.NeedsAlike start n.key)) ∧
    ∀ e ∈ w'.graph.dependencies o.bundle.id, ∀ n, w'.graph.node? e.child = some n →
      Opens o.bundle.setsSystemApart e.tag n → ∀ y m, w'.graph.node? y = some m →
        TransGen (BringsAlong w'.graph o.bundle.setsSystemApart) e.child y →
          m.image = o.bundle.requestedImage s ∧ m.target ∈ o.bundle.node.targets ∧
            o.bundle.AsksFor w'.graph s m.target e.child ∧
              TransGen w'.graph.NeedsAlike e.child y := by
  have hs := sound_of_ofDeclarations (Declaration.keeps_of_readDocument hd) hw
  have hg := assembled_of_assemble hs ha
  obtain ⟨hb, _, c, _, hc, hplan, _⟩ := exists_of_outcome hs ha ho hp
  refine ⟨fun f hf => ?_, fun e he n hn hopen y m hm => asksFor_of_way hs hw hg hb he hn hopen hm⟩
  rw [(BundleModule.plan_eq_ok hplan).1, Collection.files_of_ofBundle hc] at hf
  obtain ⟨found, hfound, rfl⟩ := Collection.exists_of_mem_normalised hf
  obtain ⟨e, he, n, hof, h⟩ := Findings.exists_way_of_mem_files hg.settled hfound
  rcases h with ⟨hn, hbrings⟩ | ⟨m, y, l, hm, hopen, hway, hn, _⟩
  · have hkey := hg.settled.key_of_node? hn
    refine ⟨n, hof.owner, hkey ▸ hn, fun hnative => ?_⟩
    obtain ⟨himage, htarget, hasks⟩ :=
      asksFor_of_mem_dependencies hs hw hg hb he (hbrings.tag_of_isNative hnative) hn hnative
    exact ⟨himage, htarget, e.child, hasks, hkey ▸ .refl⟩
  · have hkey := hg.settled.key_of_node? hn
    obtain ⟨himage, htarget, hasks, halike⟩ :=
      asksFor_of_way hs hw hg hb he hm hopen hn hway
    exact ⟨n, hof.owner, hkey ▸ hn, fun _ =>
      ⟨himage, htarget, e.child, hasks, hkey ▸ halike.to_reflTransGen⟩⟩

theorem built_as_requested_layered :
    ∃ ds w w' a o plan, Declaration.readDocument layered = .sound ds ∧
      ofDeclarations ds layeredSettings .here = .ok w ∧
      w.assemble layeredSettings layeredTree [] = (w', .ok a) ∧ o ∈ a.outcomes ∧
      o.result = .ok plan ∧ ∀ f ∈ plan.files, ∃ n, f.owner = some n.key ∧
        w'.graph.node? n.key = some n ∧ (n.isNative = true → n.image = vendorImage) := by
  obtain ⟨ds, w, w', a, o, plan, hd, hw, ha, ho, _, hp⟩ := exists_plan exists_outcome_layered
  obtain ⟨hfiles, _⟩ := built_as_requested hd hw ha ho hp
  have hvendor : ∀ w ∈ (ofDocument? layered layeredSettings .here).toList, ∀ b ∈ w.bundles,
      b.requestedImage layeredSettings = vendorImage := by decide +kernel
  have hs := sound_of_ofDeclarations (Declaration.keeps_of_readDocument hd) hw
  have hb := (exists_of_outcome hs ha ho hp).1
  have himage := hvendor w (Option.mem_toList.2 (ofDocument?_eq_some.2 ⟨ds, hd, hw⟩)) _ hb
  refine ⟨ds, w, w', a, o, plan, hd, hw, ha, ho, hp, fun f hf => ?_⟩
  obtain ⟨n, hown, hn, h⟩ := hfiles f hf
  exact ⟨n, hown, hn, fun hnative => himage ▸ (h hnative).1⟩

end Workspace

end BundleWright
