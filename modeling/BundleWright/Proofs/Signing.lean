import BundleWright.Proofs.Answered
import BundleWright.Proofs.Links
import BundleWright.Proofs.Path.Order
import BundleWright.Proofs.Plan
/-!
What signs a bundle. Main statement: a bundle that comes out without an error is made with the key
and signed with the certificate that it declares, and by the default one only if it names none.
-/
namespace BundleWright

namespace ToolCommand

def valueOf? (option : String) : List String → Option String
  | o :: v :: rest => if o = option then some v else valueOf? option rest
  | _ => none

def makerOption? (option : String) (argv : List String) : Option String :=
  valueOf? option (argv.drop 2)

variable {s : Settings} {p : ImageParts} {output : Path}

theorem makerOption?_key : makerOption? "--key" (image s p output) = some p.key.text := by
  simp [makerOption?, image, valueOf?]

/-- The public key is the only value behind its option, as the directory is not named like one. -/
theorem makerOption?_pubkey (hd : p.dir.text ≠ "--pubkey") :
    makerOption? "--pubkey" (image s p output) = p.publicKey.map Path.text := by
  cases hk : p.publicKey with
  | some k => simp [makerOption?, image, valueOf?, hk]
  | none =>
    cases hn : p.packageName with
    | none => simp [makerOption?, image, valueOf?, hk, hn, hd]
    | some n => by_cases he : n = "" <;> simp [makerOption?, image, valueOf?, hk, hn, hd, he]

end ToolCommand

theorem moduleReference?_eq_some_iff {c name : String} :
    moduleReference? c = some name ↔ c = ":" ++ name ∧ name ≠ "" := by
  constructor
  · intro h
    unfold moduleReference? at h
    split at h
    · next d rest hc =>
      cases h
      exact ⟨String.toList_inj.1 (by simp [hc]), by simp⟩
    · cases h
  · rintro ⟨rfl, hne⟩
    cases hl : name.toList with
    | nil => exact absurd (String.toList_eq_nil_iff.1 hl) hne
    | cons d rest =>
      have hc : (":" ++ name).toList = ':' :: d :: rest := by simp [hl]
      rw [moduleReference?, hc]
      exact congrArg some (by rw [← hl, String.ofList_toList])

/-- What a bundle declares to be signed with: the pair of a module, two files that it names, or the
default pair if it names nothing. -/
inductive BundleModule.DeclaresPair (g : ModuleGraph) (s : Settings) (b : BundleModule) :
    Certificate → Prop
  | module {name : String} {m : Member} {c : Certificate} :
      b.properties.certificate = some (":" ++ name) → name ≠ "" → g.named name = [m] →
      m.node.kind = .certificate c → DeclaresPair g s b c
  | files {name : String} : b.properties.certificate = some name → name ≠ "" →
      (∀ rest, rest ≠ "" → name ≠ ":" ++ rest) →
      DeclaresPair g s b ⟨s.certDir / (name ++ ".x509.pem"), s.certDir / (name ++ ".pk8")⟩
  | default : b.properties.certificate = none ∨ b.properties.certificate = some "" →
      DeclaresPair g s b ⟨s.certDir / (s.defaultCertificate ++ ".x509.pem"),
        s.certDir / (s.defaultCertificate ++ ".pk8")⟩

theorem BundleModule.DeclaresPair.of_named {g : ModuleGraph} {s : Settings} {b : BundleModule}
    {c : Certificate} (h : b.DeclaresPair g s c)
    (hne : Bundle.given b.properties.certificate ≠ none) (other : String) :
    b.DeclaresPair g { s with defaultCertificate := other } c := by
  cases h with
  | module hc hn hm hk => exact .module hc hn hm hk
  | files hc hn hr => exact .files hc hn hr
  | default hc =>
    rcases hc with hc | hc <;> simp [Bundle.given, hc] at hne

namespace Request

variable {g : ModuleGraph} {b : BundleModule} {s : Settings} {c : Collection} {name : String}

theorem exists_key_of_answered
    (h : (ModuleGraph.wholeRequest .key name).Answered g b s c []) :
    ∃ m k, g.find? name [] = some m ∧ m.node.kind = .key k ∧ c.keyFile = k.privateKeyFile := by
  unfold Answered at h
  split at h
  · simp at h
  · next m hm =>
    simp only [ModuleGraph.wholeRequest] at h hm
    cases hk : m.node.kind with
    | key k => exact ⟨m, k, hm, hk, by simpa [hk] using h⟩
    | _ => simp [hk] at h

theorem exists_certificate_of_answered
    (h : (ModuleGraph.wholeRequest .certificate name).Answered g b s c []) :
    ∃ m x, g.find? name [] = some m ∧ m.node.kind = .certificate x ∧ c.certificate = some x := by
  unfold Answered at h
  split at h
  · simp at h
  · next m hm =>
    simp only [ModuleGraph.wholeRequest] at h hm
    cases hk : m.node.kind with
    | certificate x => exact ⟨m, x, hm, hk, by simpa [hk] using h⟩
    | _ => simp [hk] at h

end Request

theorem Findings.publicKeyFile_direct_key {s : Settings} {b : BundleModule} {n : Node}
    {k : SigningKey} (hk : n.kind = .key k) :
    (direct s b {} .key n).2.publicKeyFile =
      if !k.installable && s.debuggable then some k.publicKeyFile else none := by
  unfold direct
  simp only [hk]

section Collected

variable {g : ModuleGraph} {b : BundleModule} {s : Settings} {c : Collection}

/-- The public key is that of the key the bundle asks for, in builds for development and if nobody
else installs it. -/
theorem Collection.publicKeyFile_eq (hg : g.Settled)
    (hd : g.dependencies b.id = g.bundleEdges b s) (hc : ofBundle g b s = .ok c) {name : String}
    (hkey : Bundle.given b.properties.key = some name) {m : Member} {k : SigningKey}
    (hm : g.find? name [] = some m) (hk : m.node.kind = .key k) :
    c.publicKeyFile =
      if !k.installable && s.debuggable then some k.publicKeyFile else none := by
  have hr : ModuleGraph.wholeRequest .key name ∈ b.allRequests s := by
    simp [BundleModule.allRequests, hkey]
  have he : (⟨b.id, m.id, .key, b.id⟩ : Edge) ∈ g.dependencies b.id := by
    rw [hd]
    refine List.mem_filterMap.2 ⟨_, hr, Request.mem_edge?_iff.2 ⟨m, hm, ?_⟩⟩
    rw [hg.keyOf_eq]
    rfl
  have hnode := hg.node?_eq (ModuleGraph.find?_name hm).1
  have hfound := Findings.decidedLast_publicKeyFile.eq_direct s hg he hnode fun d hd' m' y hy =>
    ModuleGraph.eq_of_mem_bundleEdges (hd ▸ he) (hd ▸ hd') (.inl rfl)
      (Findings.publicKeyFile_direct.1 hy).1
  rw [Findings.publicKeyFile_direct_key hk] at hfound
  rw [(ofBundle_eq_ok hc).2, hfound]

/-- Where nothing is reported, the certificate is the declared one. -/
theorem BundleModule.declaresPair_certificate
    (hone : ∀ m ∈ g.members, ∀ x, m.node.kind = .certificate x → g.named m.id.name = [m])
    (hkey : Bundle.given b.properties.key ≠ none)
    (h : ∀ r ∈ b.allRequests s, r.Answered g b s c []) :
    b.DeclaresPair g s (b.certificate c.certificate s) := by
  unfold certificate
  cases hc : b.properties.certificate with
  | none => exact .default (.inl hc)
  | some t =>
    by_cases ht : t = ""
    · have hgiven : Bundle.given (some t) = none := by simp [Bundle.given, ht]
      simp only [hgiven]
      exact .default (.inr (ht ▸ hc))
    have hgiven : Bundle.given (some t) = some t := by simp [Bundle.given, ht]
    simp only [hgiven]
    cases hm : moduleReference? t with
    | none =>
      refine .files hc ht fun rest hrest he => ?_
      rw [moduleReference?_eq_some_iff.2 ⟨he, hrest⟩] at hm
      cases hm
    | some name =>
      have hr : ModuleGraph.wholeRequest .certificate name ∈ b.allRequests s := by
        obtain ⟨key, hk⟩ := Option.ne_none_iff_exists'.1 hkey
        simp [allRequests, hk, hc, hm]
      obtain ⟨m, x, hfind, hkind, hx⟩ := Request.exists_certificate_of_answered (h _ hr)
      obtain ⟨hmem, hname, _⟩ := ModuleGraph.find?_name hfind
      obtain ⟨rfl, hne⟩ := moduleReference?_eq_some_iff.1 hm
      rw [hx]
      exact .module hc hne (hname ▸ hone m hmem x hkind) hkind

end Collected

namespace Outcome

theorem errors_of_ok {o : Outcome} (h : o.ok = true) : o.errors = [] := by
  simp only [ok, Bool.and_eq_true, List.isEmpty_iff] at h
  exact h.2

end Outcome

namespace BundleModule

theorem text_stagingDir_ne (b : BundleModule) (s : Settings) :
    (b.stagingDir s .image).text ≠ "--pubkey" := by
  intro h
  have hp : b.stagingDir s .image = .ofString "--pubkey" := by rw [← h, Path.ofString_text]
  have hname : (b.stagingDir s .image).name = (Path.ofString "image.apex").name :=
    Path.name_div (by decide +kernel) (by decide +kernel)
  rw [hp] at hname
  exact absurd hname (by decide +kernel)

variable {b : BundleModule} {c : Collection} {s : Settings} {tree : FileTree} {plan : Plan}
  {act : Action}

theorem makerOptions_of_mem_actions (h : b.plan c s tree = .ok plan) (ha : act ∈ plan.actions)
    (hd : act.description = "apex (image)") :
    ∃ argv env, act.work = .command argv env ∧
      ToolCommand.makerOption? "--key" argv = some c.keyFile.text ∧
      ToolCommand.makerOption? "--pubkey" argv = c.publicKeyFile.map Path.text := by
  obtain ⟨contexts, hplanned⟩ := planned_of_mem_actions h
  rcases (hplanned act ha).maker_or_signing with ⟨_, hwork⟩ | ⟨hd', _⟩ | ⟨hd', _⟩
  · exact ⟨_, _, hwork, ToolCommand.makerOption?_key,
      ToolCommand.makerOption?_pubkey (b.text_stagingDir_ne s)⟩
  · rw [hd] at hd'
    simp at hd'
  · exact absurd hd hd'

theorem signing_of_mem_actions (h : b.plan c s tree = .ok plan) (ha : act ∈ plan.actions)
    (hd : act.description = "signapk") :
    ∃ payload, act = b.signing (b.certificate c.certificate s) s payload := by
  obtain ⟨contexts, hplanned⟩ := planned_of_mem_actions h
  rcases (hplanned act ha).maker_or_signing with ⟨hd', _⟩ | ⟨_, hact⟩ | ⟨_, hd'⟩
  · rw [hd] at hd'
    simp at hd'
  · exact hact
  · exact absurd hd hd'

theorem exists_key_of_bundleReport {g : ModuleGraph} {reported : List PropertyError}
    (h : g.bundleReport b s = .ok reported) :
    ∃ name, Bundle.given b.properties.key = some name := by
  unfold ModuleGraph.bundleReport at h
  split at h
  · cases h
  · next name hkey => exact ⟨name, hkey⟩

end BundleModule

namespace Workspace

variable {doc : Datum} {ds : List Declaration} {s₀ s : Settings} {dir : Path} {w w' : Workspace}
  {tree : FileTree} {names : List String} {a : Assembly} {o : Outcome}

/-- A bundle that comes out without an error is signed as it declares. The archive of its image is
made with the private key of the one module that its key names, and with the public key as well if
the build is for development and does not install that module. Every archive is signed with the
certificate it declares, whatever the default one is if it declares any. -/
theorem signed_as_declared (hd : Declaration.readDocument doc = .sound ds)
    (hw : ofDeclarations ds s₀ dir = .ok w) (ha : w.assemble s tree names = (w', .ok a))
    (ho : o ∈ a.outcomes) (hok : o.ok = true) :
    ∃ plan, o.result = .ok plan ∧
      (∃ name m k, o.bundle.properties.key = some name ∧ w'.graph.named name = [m] ∧
        m.node.kind = .key k ∧
        (∀ selection, o.bundle.selection = .ok selection → selection.hasImage = true →
          ∃ act ∈ plan.actions, act.description = "apex (image)") ∧
        ∀ act ∈ plan.actions, act.description = "apex (image)" →
          ∃ argv env, act.work = .command argv env ∧
            ToolCommand.makerOption? "--key" argv = some k.privateKeyFile.text ∧
            ToolCommand.makerOption? "--pubkey" argv =
              if k.installable = false ∧ s.debuggable = true then some k.publicKeyFile.text
              else none) ∧
      ∃ pair, o.bundle.DeclaresPair w'.graph s pair ∧
        (∃ act ∈ plan.actions, act.description = "signapk") ∧
        (∀ act ∈ plan.actions, act.description = "signapk" → ∃ source output,
          act.inputs = [source, pair.pem, pair.key] ∧ act.outputs = [output] ∧
            act.work = .command [s.java, "-jar", s.signapkJar, "-a", "4096", pair.pem.text,
              pair.key.text, source.text, output.text] []) ∧
        (Bundle.given o.bundle.properties.certificate ≠ none → ∀ other,
          o.bundle.DeclaresPair w'.graph { s with defaultCertificate := other } pair) := by
  have hs := sound_of_ofDeclarations (Declaration.keeps_of_readDocument hd) hw
  have hg := assembled_of_assemble hs ha
  obtain ⟨plan, hp⟩ := o.exists_of_ok hok
  have hb := (exists_of_outcome hs ha ho hp).1
  obtain ⟨c, reported, hc, hplan, hreport, hanswered⟩ := answered_of_outcome hs ha ho hp
  rw [Outcome.errors_of_ok hok] at hanswered
  have hone (m : Member) (hm : m ∈ w'.graph.members)
      (hk : (∃ k, m.node.kind = .key k) ∨ ∃ x, m.node.kind = .certificate x) :
      w'.graph.named m.id.name = [m] := by
    rw [hg.members] at hm
    rw [ModuleGraph.named, hg.members]
    exact named_eq_singleton hs hw hm hk
  obtain ⟨name, hkey⟩ := BundleModule.exists_key_of_bundleReport hreport
  refine ⟨plan, hp, ?_, ?_⟩
  · have hr : ModuleGraph.wholeRequest .key name ∈ o.bundle.allRequests s := by
      simp [BundleModule.allRequests, hkey]
    obtain ⟨m, k, hm, hk, hfile⟩ := Request.exists_key_of_answered (hanswered _ hr)
    obtain ⟨hmem, hname, _⟩ := ModuleGraph.find?_name hm
    have hpublic := Collection.publicKeyFile_eq hg.settled
      (by rw [hg.dependencies _ hb, ModuleGraph.bundleEdges_congr hg.members]) hc hkey hm hk
    refine ⟨name, m, k, (Option.filter_eq_some_iff.1 hkey).1, hname ▸ hone m hmem (.inl ⟨k, hk⟩),
      hk, fun selection => BundleModule.exists_maker hplan, fun act hact hd => ?_⟩
    obtain ⟨argv, env, hwork, hoption, hpubkey⟩ :=
      BundleModule.makerOptions_of_mem_actions hplan hact hd
    refine ⟨argv, env, hwork, hfile ▸ hoption, hpubkey.trans ?_⟩
    simp only [hpublic, Bool.and_eq_true, Bool.not_eq_true']
    split <;> rfl
  · have hpair := BundleModule.declaresPair_certificate
      (fun m hm x hx => hone m hm (.inr ⟨x, hx⟩)) (by simp [hkey]) hanswered
    refine ⟨o.bundle.certificate c.certificate s, hpair, ?_, fun act hact hd => ?_,
      hpair.of_named⟩
    · obtain ⟨payload, _, hsigned⟩ := BundleModule.exists_payload hplan
      exact ⟨_, hsigned _ (BundleModule.mem_signActions_iff.2 (.inl rfl)), rfl⟩
    · obtain ⟨payload, rfl⟩ := BundleModule.signing_of_mem_actions hplan hact hd
      exact ⟨_, _, rfl, rfl, rfl⟩

theorem signed_as_declared_layered :
    ∃ ds w w' a o plan, Declaration.readDocument layered = .sound ds ∧
      ofDeclarations ds layeredSettings .here = .ok w ∧
      w.assemble layeredSettings layeredTree [] = (w', .ok a) ∧ o ∈ a.outcomes ∧ o.ok = true ∧
      o.result = .ok plan ∧ ∃ pair, o.bundle.DeclaresPair w'.graph layeredSettings pair ∧
        ∀ act ∈ plan.actions, act.description = "signapk" → ∃ source output,
          act.inputs = [source, pair.pem, pair.key] ∧ act.outputs = [output] ∧
            act.work = .command [layeredSettings.java, "-jar", layeredSettings.signapkJar, "-a",
              "4096", pair.pem.text, pair.key.text, source.text, output.text] [] := by
  obtain ⟨ds, w, w', a, o, _, hd, hw, ha, ho, hok, _⟩ := exists_plan exists_outcome_layered
  obtain ⟨plan, hp, _, pair, hpair, _, hsigned, _⟩ := signed_as_declared hd hw ha ho hok
  exact ⟨ds, w, w', a, o, plan, hd, hw, ha, ho, hok, hp, pair, hpair, hsigned⟩

end Workspace

end BundleWright
