import BundleWright.Action
import BundleWright.Proofs.Text.Order
/-!
Command lines as a shell cuts them into words. Main statements: a word that is quoted for the shell
is read back whatever it holds, and a command line is read as its variables, in the order of their
names, and its arguments; so lines that set the same variables are equal only if they set them to
the same values and run the same command.
-/
namespace BundleWright

namespace Text

inductive Quoting where
  | bare
  | escaped
  | single
  | double
  | doubleEscaped

/-- Characters that a shell may take for more than a part of a word unless they are quoted: they end
a command, redirect it, are expanded or begin a comment. -/
def isShellOperator (c : Char) : Bool := "|&;<>()$`*?[#~\n".toList.contains c

/-- The words of the rest of a line, where `word` has been read of the present one if one has begun.
Nothing where a quote is left open, or where the shell may do more than take quotes away. -/
def shellRead (q : Quoting) (word : Option (List Char)) : List Char → Option (List (List Char))
  | [] =>
    match q with
    | .bare => some word.toList
    | _ => none
  | c :: cs =>
    let longer := some (word.getD [] ++ [c])
    match q with
    | .bare =>
      if c = ' ' ∨ c = '\t' then (shellRead .bare none cs).map (word.toList ++ ·)
      else if c = '\'' then shellRead .single (some (word.getD [])) cs
      else if c = '"' then shellRead .double (some (word.getD [])) cs
      else if c = '\\' then shellRead .escaped word cs
      else if isShellOperator c then none
      else shellRead .bare longer cs
    | .escaped => shellRead .bare (if c = '\n' then word else longer) cs
    | .single =>
      if c = '\'' then shellRead .bare word cs else shellRead .single longer cs
    | .double =>
      if c = '"' then shellRead .bare word cs
      else if c = '\\' then shellRead .doubleEscaped word cs
      else if c = '$' ∨ c = '`' then none
      else shellRead .double longer cs
    | .doubleEscaped =>
      -- in double quotes a backslash quotes few characters and otherwise stands for itself
      let kept := if "$`\"\\".toList.contains c then longer else some (word.getD [] ++ ['\\', c])
      shellRead .double (if c = '\n' then word else kept) cs

def shellWords (line : String) : Option (List String) :=
  (shellRead .bare none line.toList).map (·.map String.ofList)

example : shellWords "A='x  y' b\"c\\\"\"'d'\\ e ''" = some ["A=x  y", "bc\"d e", ""] := by
  decide +kernel

example : shellWords "a $b" = none ∧ shellWords "a 'b" = none := by decide +kernel

variable {c : Char} {cs rest : List Char} {word : Option (List Char)} {w : List Char}

theorem not_isShellOperator_of_plain (h : isPlainShellChar c = true) :
    isShellOperator c = false := by
  rw [← Bool.not_eq_true]
  intro ho
  have hmem : c ∈ "|&;<>()$`*?[#~\n".toList := List.contains_iff_mem.1 ho
  have hlist : "|&;<>()$`*?[#~\n".toList =
      ['|', '&', ';', '<', '>', '(', ')', '$', '`', '*', '?', '[', '#', '~', '\n'] := rfl
  simp only [hlist, List.mem_cons, List.not_mem_nil, or_false] at hmem
  rcases hmem with rfl | rfl | rfl | rfl | rfl | rfl | rfl | rfl | rfl | rfl | rfl | rfl | rfl |
    rfl | rfl <;> exact absurd h (by decide)

theorem ne_of_plain {x : Char} (h : isPlainShellChar c = true)
    (hx : isPlainShellChar x = false) : c ≠ x := by
  rintro rfl
  rw [h] at hx
  cases hx

theorem shellRead_plain (h : isPlainShellChar c = true) :
    shellRead .bare word (c :: cs) = shellRead .bare (some (word.getD [] ++ [c])) cs := by
  have hblank : ¬(c = ' ' ∨ c = '\t') :=
    not_or.2 ⟨ne_of_plain h (by decide), ne_of_plain h (by decide)⟩
  rw [shellRead, if_neg hblank, if_neg (ne_of_plain h (by decide)),
    if_neg (ne_of_plain h (by decide)), if_neg (ne_of_plain h (by decide)),
    not_isShellOperator_of_plain h, if_neg Bool.false_ne_true]

theorem shellRead_plains (h : ∀ c ∈ cs, isPlainShellChar c = true) (w rest : List Char) :
    shellRead .bare (some w) (cs ++ rest) = shellRead .bare (some (w ++ cs)) rest := by
  induction cs generalizing w with
  | nil => rw [List.nil_append, List.append_nil]
  | cons c cs ih =>
    rw [List.cons_append, shellRead_plain (h c List.mem_cons_self),
      ih fun x hx => h x (List.mem_cons_of_mem c hx)]
    simp

/-- What stands in single quotes is taken as it is; a single quote in it is put between them. -/
theorem shellRead_quoted (cs w rest : List Char) :
    shellRead .single (some w) (cs.flatMap shellQuoteChar ++ '\'' :: rest) =
      shellRead .bare (some (w ++ cs)) rest := by
  induction cs generalizing w with
  | nil => simp [shellRead]
  | cons c cs ih =>
    rw [List.flatMap_cons, List.append_assoc]
    have hstep : ∀ more, shellRead .single (some w) (shellQuoteChar c ++ more) =
        shellRead .single (some (w ++ [c])) more := by
      intro more
      unfold shellQuoteChar
      split
      · next hc => simp [hc, shellRead]
      · next hc => simp [hc, shellRead]
    rw [hstep, ih]
    simp

/-- A quoted word is read as what it was made of, behind what has been read of it. -/
theorem shellRead_shellQuote (word : Option (List Char)) (cs rest : List Char) :
    shellRead .bare word (shellQuote cs ++ rest) =
      shellRead .bare (some (word.getD [] ++ cs)) rest := by
  unfold shellQuote
  split
  · next he =>
    obtain rfl := List.isEmpty_iff.1 he
    simp [shellRead]
  · next hne =>
    split
    · next hplain =>
      have hplain : ∀ c ∈ cs, isPlainShellChar c = true := List.all_eq_true.1 hplain
      cases cs with
      | nil => exact absurd rfl hne
      | cons c cs =>
        rw [List.cons_append, shellRead_plain (hplain c List.mem_cons_self),
          shellRead_plains fun x hx => hplain x (List.mem_cons_of_mem c hx)]
        simp
    · -- the quotes of the word are the outer ones; `shellRead_quoted` is about what they hold
      have hopen : ∀ more, shellRead .bare word ('\'' :: more) =
          shellRead .single (some (word.getD [])) more := fun more => by simp [shellRead]
      rw [List.append_assoc, List.cons_append, hopen]
      exact shellRead_quoted cs _ rest

def ReadsAs (piece w : List Char) : Prop :=
  ∀ rest, shellRead .bare none (piece ++ rest) = shellRead .bare (some w) rest

theorem readsAs_shellQuote (cs : List Char) : ReadsAs (shellQuote cs) cs :=
  shellRead_shellQuote none cs

section Pieces

variable {α : Type} {l : List α} {piece word : α → List Char}

theorem shellRead_pieces (h : ∀ a ∈ l, ReadsAs (piece a) (word a)) (rest : List Char) :
    shellRead .bare none (l.flatMap (piece · ++ [' ']) ++ rest) =
      (shellRead .bare none rest).map (l.map word ++ ·) := by
  induction l with
  | nil => simp
  | cons a l ih =>
    have hrest := ih fun x hx => h x (List.mem_cons_of_mem a hx)
    rw [List.flatMap_cons, List.append_assoc, List.append_assoc, h a List.mem_cons_self,
      List.singleton_append, shellRead, if_pos (.inl rfl), hrest, Option.map_map]
    rfl

theorem intercalate_concat (sep : List Char) (l : List (List Char)) (last : List Char) :
    sep.intercalate (l ++ [last]) = l.flatMap (· ++ sep) ++ last := by
  induction l with
  | nil => simp
  | cons x l ih =>
    have hne : l ++ [last] ≠ [] := List.append_ne_nil_of_right_ne_nil l (List.cons_ne_nil _ _)
    obtain ⟨y, ys, hys⟩ := List.exists_cons_of_ne_nil hne
    rw [List.cons_append, hys, List.intercalate_cons_cons, ← hys, ih, List.flatMap_cons]
    simp

theorem shellRead_intercalate (h : ∀ a ∈ l, ReadsAs (piece a) (word a)) :
    shellRead .bare none ([' '].intercalate (l.map piece)) = some (l.map word) := by
  rcases List.eq_nil_or_concat l with rfl | ⟨init, last, rfl⟩
  · rfl
  · have hlast := h last (by simp) []
    rw [List.append_nil] at hlast
    rw [List.concat_eq_append, List.map_append, List.map_singleton, intercalate_concat,
      List.flatMap_map, shellRead_pieces fun a ha => h a (by simp [ha]), hlast]
    simp [shellRead]

end Pieces

def isIdentifier (s : String) : Bool :=
  match s.toList with
  | [] => false
  | c :: cs => (c.isAlpha || c == '_') && cs.all fun x => x.isAlphanum || x == '_'

theorem plain_of_isIdentifier {s : String} (h : isIdentifier s = true) :
    s.toList ≠ [] ∧ ∀ c ∈ s.toList, isPlainShellChar c = true := by
  have hplain {c : Char} (hc : (c.isAlphanum || c == '_') = true) : isPlainShellChar c = true := by
    rcases Bool.or_eq_true_iff.1 hc with hc | hc
    · simp [isPlainShellChar, hc]
    · obtain rfl := eq_of_beq hc
      decide
  unfold isIdentifier at h
  split at h
  · cases h
  · next c cs hs =>
    obtain ⟨hc, hcs⟩ := Bool.and_eq_true_iff.1 h
    rw [hs]
    refine ⟨List.cons_ne_nil c cs, List.forall_mem_cons.2 ⟨hplain ?_, fun x hx => ?_⟩⟩
    · rcases Bool.or_eq_true_iff.1 hc with hc | hc
      · simp [Char.isAlphanum, hc]
      · simp [hc]
    · exact hplain (List.all_eq_true.1 hcs x hx)

end Text

namespace Environment

structure Settable (env : Environment) : Prop where
  identifiers : ∀ v ∈ env, Text.isIdentifier v.1 = true
  nodup : (env.map Prod.fst).Nodup

def word (v : String × String) : String := v.1 ++ "=" ++ v.2

def sorted (env : Environment) : Environment := env.mergeSort (·.1 ≤ ·.1)

variable {env vars vars' : Environment}

theorem sorted_perm (env : Environment) : env.sorted.Perm env := List.mergeSort_perm _ _

theorem Settable.pairwise_sorted (h : env.Settable) :
    (env.sorted.map Prod.fst).Pairwise (· < ·) := by
  have hle : env.sorted.Pairwise fun v u => decide (v.1 ≤ u.1) = true := by
    refine List.pairwise_mergeSort (fun a b c hab hbc => ?_) (fun a b => ?_) env
    · exact decide_eq_true (String.le_trans (of_decide_eq_true hab) (of_decide_eq_true hbc))
    · simpa using String.le_total a.1 b.1
  exact Text.pairwise_lt_of_nodup (List.pairwise_map.2 (hle.imp of_decide_eq_true))
    ((env.sorted_perm.map Prod.fst).nodup_iff.2 h.nodup)

theorem eq_of_words_eq (hnames : vars.map Prod.fst = vars'.map Prod.fst)
    (hwords : vars.map word = vars'.map word) : vars = vars' := by
  induction vars generalizing vars' with
  | nil => exact (List.map_eq_nil_iff.1 hnames.symm).symm
  | cons v vars ih =>
    cases vars' with
    | nil => cases hnames
    | cons u vars' =>
      obtain ⟨hname, hnames⟩ := List.cons.inj hnames
      obtain ⟨hword, hwords⟩ := List.cons.inj hwords
      have hvalue : v.2 = u.2 := by
        unfold word at hword
        rw [hname] at hword
        simpa using hword
      rw [Prod.ext hname hvalue, ih hnames hwords]

end Environment

section Actions

open Text

variable {argv : List String} {env : Environment}

theorem readsAs_assignment {v : String × String} (h : isIdentifier v.1 = true) :
    ReadsAs (assignment v).toList (Environment.word v).toList := by
  intro rest
  obtain ⟨hne, hplain⟩ := plain_of_isIdentifier h
  obtain ⟨c, cs, hcs⟩ := List.exists_cons_of_ne_nil hne
  have hsetter : ∀ x ∈ cs ++ ['='], isPlainShellChar x = true := by
    intro x hx
    rcases List.mem_append.1 hx with hx | hx
    · exact hplain x (by simp [hcs, hx])
    · rw [List.mem_singleton.1 hx]
      decide
  have hpiece : (assignment v).toList ++ rest =
      c :: ((cs ++ ['=']) ++ (shellQuote v.2.toList ++ rest)) := by
    simp [assignment, shellWord, hcs]
  rw [hpiece, shellRead_plain (hplain c (by simp [hcs])), shellRead_plains hsetter,
    shellRead_shellQuote]
  simp [Environment.word, hcs]

theorem toList_commandLine (argv : List String) (env : Environment) :
    (commandLine argv env).toList = env.sorted.flatMap (fun v => (assignment v).toList ++ [' ']) ++
      [' '].intercalate (argv.map fun a => shellQuote a.toList) := by
  change (String.intercalate " " (env.sorted.map assignment ++ [_])).toList = _
  rw [String.toList_intercalate, List.map_append, List.map_singleton, intercalate_concat,
    List.map_map, List.flatMap_map, String.toList_intercalate, List.map_map]
  simp [Function.comp_def, shellWord]

theorem shellWords_commandLine (h : env.Settable) (argv : List String) :
    shellWords (commandLine argv env) = some (env.sorted.map Environment.word ++ argv) := by
  have hvars : ∀ v ∈ env.sorted, ReadsAs (assignment v).toList (Environment.word v).toList :=
    fun v hv => readsAs_assignment (h.identifiers v (env.sorted_perm.mem_iff.1 hv))
  have hargs : ∀ a ∈ argv, ReadsAs (shellQuote a.toList) a.toList :=
    fun a _ => readsAs_shellQuote a.toList
  rw [shellWords, toList_commandLine, shellRead_pieces hvars, shellRead_intercalate hargs]
  simp [Function.comp_def]

/-- A command line can be pasted into a shell: its words are the variables in the order of their
names, each with its value, and then the arguments, whatever these hold. So two actions that set
the same variables and have the same command line set them to the same values and run the same
command. -/
theorem Action.commandLine_reads_back {a : Action} (ha : a.work = .command argv env)
    (henv : env.Settable) :
    ∃ (line : String) (vars : Environment), a.commandLine? = some line ∧ vars.Perm env ∧
      (vars.map Prod.fst).Pairwise (· < ·) ∧
      shellWords line = some (vars.map Environment.word ++ argv) ∧
      ∀ (b : Action) (argv' : List String) (env' : Environment), b.work = .command argv' env' →
        env'.Settable → (∀ name, name ∈ env'.map Prod.fst ↔ name ∈ env.map Prod.fst) →
          b.commandLine? = some line → argv' = argv ∧ env'.Perm env := by
  refine ⟨commandLine argv env, env.sorted, by rw [commandLine?, ha], env.sorted_perm,
    henv.pairwise_sorted, shellWords_commandLine henv argv, ?_⟩
  intro b argv' env' hb henv' hsame hline
  rw [commandLine?, hb, Option.some.injEq] at hline
  have hnames : env'.sorted.map Prod.fst = env.sorted.map Prod.fst := by
    refine eq_of_pairwise_lt henv'.pairwise_sorted henv.pairwise_sorted fun name => ?_
    rw [(env'.sorted_perm.map Prod.fst).mem_iff, hsame, (env.sorted_perm.map Prod.fst).mem_iff]
  have hwords := shellWords_commandLine henv' argv'
  rw [hline, shellWords_commandLine henv argv, Option.some.injEq] at hwords
  have hlength := congrArg List.length hnames
  simp only [List.length_map] at hlength
  obtain ⟨hvars, hargs⟩ := List.append_inj hwords (by simp [hlength])
  have hsorted : env'.sorted = env.sorted := Environment.eq_of_words_eq hnames hvars.symm
  exact ⟨hargs.symm, env'.sorted_perm.symm.trans (hsorted ▸ env.sorted_perm)⟩

def awkwardCommand : Action where
  description := "apex (image)"
  outputs := []
  work := .command ["apexer", "", "it's", "a  b", "$HOME\\", "é\n"] [("Z", "1 2"), ("A", "")]

theorem Action.commandLine_reads_back_awkward :
    ∃ (line : String) (vars : Environment), awkwardCommand.commandLine? = some line ∧
      vars.Perm [("Z", "1 2"), ("A", "")] ∧ (vars.map Prod.fst).Pairwise (· < ·) ∧
      shellWords line = some (vars.map Environment.word ++
        ["apexer", "", "it's", "a  b", "$HOME\\", "é\n"]) := by
  have henv : Environment.Settable [("Z", "1 2"), ("A", "")] :=
    ⟨by decide, by decide⟩
  obtain ⟨line, vars, hline, hperm, hsorted, hwords, -⟩ :=
    commandLine_reads_back (a := awkwardCommand) rfl henv
  exact ⟨line, vars, hline, hperm, hsorted, hwords⟩

end Actions

end BundleWright
