import Mathlib
import TextGen.Proofs.Grammar.Brackets
import TextGen.Proofs.Grammar.Warnings

/-! Grammars that expand completely.
If names are texts in angle brackets, and productions are made of names and of text without such
brackets, then every derived text has brackets around names only. Without cycles there is a limit to
the number of steps, and a text to which no rule applies then holds no brackets. Only a draw that
fails keeps an expansion from such a text. -/
namespace TextGen.Grammar

open Relation (ReflTransGen)

/-- A text made of rule names and of pieces without angle brackets. -/
def Composed (rules : List Rule) (text : List Char) : Prop :=
  ∃ pieces : List (List Char), pieces.flatten = text ∧
    ∀ piece ∈ pieces, (∃ r ∈ rules, piece = r.name.toList) ∨ '<' ∉ piece ∧ '>' ∉ piece

/-- Names in angle brackets, and productions made of names and of text without such brackets. -/
structure Composes (rules : List Rule) : Prop where
  name : ∀ r ∈ rules, ∃ inner : List Char,
    r.name.toList = '<' :: (inner ++ ['>']) ∧ '<' ∉ inner ∧ '>' ∉ inner
  production : ∀ r ∈ rules, ∀ p ∈ r.productions, Composed rules p.text.toList

/-- What stands between an opening bracket and the next closing one is a rule name. -/
def OnlyNames (rules : List Rule) (text : List Char) : Prop :=
  ∀ inner : List Char, '<' ∉ inner → '>' ∉ inner → '<' :: (inner ++ ['>']) <:+: text →
    ∃ r ∈ rules, r.name.toList = '<' :: (inner ++ ['>'])

variable {rules : List Rule} {inner x y text : List Char}

/- Brackets and what stands in them. -/

theorem exists_closing (closed : bracketOpen true text = some false) :
    ∃ inner after, text = inner ++ '>' :: after ∧ '<' ∉ inner ∧ '>' ∉ inner := by
  induction text with
  | nil => cases closed
  | cons c text ih =>
    by_cases opens : c = '<'
    · subst opens
      cases closed
    · by_cases closes : c = '>'
      · subst closes
        exact ⟨[], text, rfl, List.not_mem_nil, List.not_mem_nil⟩
      · rw [bracketOpen, if_neg opens, if_neg closes] at closed
        obtain ⟨inner, after, rfl, noOpen, noClose⟩ := ih closed
        exact ⟨c :: inner, after, rfl, by simp [noOpen, Ne.symm opens],
          by simp [noClose, Ne.symm closes]⟩

theorem Paired.exists_bracketed (paired : Paired text) (bracket : '<' ∈ text ∨ '>' ∈ text) :
    ∃ inner : List Char, '<' ∉ inner ∧ '>' ∉ inner ∧ '<' :: (inner ++ ['>']) <:+: text := by
  induction text with
  | nil => simp at bracket
  | cons c text ih =>
    by_cases opens : c = '<'
    · subst opens
      obtain ⟨inner, after, rfl, noOpen, noClose⟩ := exists_closing paired
      exact ⟨inner, noOpen, noClose, [], after, by simp⟩
    · by_cases closes : c = '>'
      · subst closes
        cases paired
      · unfold Paired at paired
        rw [bracketOpen, if_neg opens, if_neg closes] at paired
        obtain ⟨inner, noOpen, noClose, inside⟩ :=
          ih paired (by simpa [Ne.symm opens, Ne.symm closes] using bracket)
        exact ⟨inner, noOpen, noClose, List.infix_cons inside⟩

theorem Paired.infix_append (paired : Paired x) (noOpen : '<' ∉ inner) (noClose : '>' ∉ inner)
    (inside : '<' :: (inner ++ ['>']) <:+: x ++ y) :
    '<' :: (inner ++ ['>']) <:+: x ∨ '<' :: (inner ++ ['>']) <:+: y := by
  simp only [← Text.occurrences_pos_iff] at inside ⊢
  rw [Text.occurrences_append (List.cons_ne_nil _ _) (paired.apart noOpen noClose y)] at inside
  omega

theorem OnlyNames.of_infix (h : OnlyNames rules y) (part : x <:+: y) : OnlyNames rules x :=
  fun inner noOpen noClose inside => h inner noOpen noClose (inside.trans part)

theorem OnlyNames.append (paired : Paired x) (first : OnlyNames rules x)
    (second : OnlyNames rules y) : OnlyNames rules (x ++ y) := by
  intro inner noOpen noClose inside
  rcases paired.infix_append noOpen noClose inside with inside | inside
  · exact first inner noOpen noClose inside
  · exact second inner noOpen noClose inside

theorem onlyNames_of_plain (noOpen : '<' ∉ text) : OnlyNames rules text :=
  fun _ _ _ inside => absurd (inside.subset List.mem_cons_self) noOpen

theorem plain_of_free (paired : Paired text) (only : OnlyNames rules text)
    (free : ∀ r ∈ rules, ¬ r.name.toList <:+: text) : '<' ∉ text ∧ '>' ∉ text := by
  rw [← not_or]
  intro bracket
  obtain ⟨inner, noOpen, noClose, inside⟩ := paired.exists_bracketed bracket
  obtain ⟨r, mem, name⟩ := only inner noOpen noClose inside
  exact free r mem (name ▸ inside)

/- Composed texts. -/

namespace Composes

variable (h : Composes rules)

include h

theorem paired_name {r : Rule} (mem : r ∈ rules) : Paired r.name.toList := by
  obtain ⟨inner, name, noOpen, noClose⟩ := h.name r mem
  rw [name]
  exact bracketOpen_name noOpen noClose false

theorem onlyNames_name {r : Rule} (mem : r ∈ rules) : OnlyNames rules r.name.toList := by
  intro inner noOpen noClose inside
  obtain ⟨own, name, ownOpen, ownClose⟩ := h.name r mem
  rw [name, ← Text.occurrences_pos_iff, occurrences_name noOpen noClose ownOpen ownClose] at inside
  have same : own = inner := by
    by_contra other
    simp [other] at inside
  exact ⟨r, mem, same ▸ name⟩

theorem of_composed (composed : Composed rules text) : Paired text ∧ OnlyNames rules text := by
  obtain ⟨pieces, rfl, parts⟩ := composed
  induction pieces with
  | nil => exact ⟨rfl, onlyNames_of_plain List.not_mem_nil⟩
  | cons piece pieces ih =>
    obtain ⟨paired, only⟩ := ih fun other mem => parts other (List.mem_cons_of_mem piece mem)
    rw [List.flatten_cons]
    rcases parts piece List.mem_cons_self with ⟨r, mem, rfl⟩ | ⟨noOpen, noClose⟩
    · have own := h.paired_name mem
      exact ⟨own.append paired, .append own (h.onlyNames_name mem) only⟩
    · have own : Paired piece := bracketOpen_of_plain noOpen noClose false
      exact ⟨own.append paired, .append own (onlyNames_of_plain noOpen) only⟩

theorem bracketed : Bracketed rules where
  name := h.name
  production := fun r mem p own => (h.of_composed (h.production r mem p own)).1

theorem onlyNames_outcome {r : Rule} (mem : r ∈ rules) {outcome : String}
    (chosen : outcome ∈ r.outcomes) : OnlyNames rules outcome.toList := by
  unfold Rule.outcomes at chosen
  split at chosen
  · obtain rfl := List.mem_singleton.mp chosen
    exact onlyNames_of_plain List.not_mem_nil
  · obtain ⟨p, own, rfl⟩ := List.mem_map.mp chosen
    exact (h.of_composed (h.production r mem p own)).2

end Composes

/- Derivations. -/

variable {g : Grammar} {start : List Char}

theorem Composes.onlyNames_of_reached (h : Composes g.rules) (paired : Paired start)
    (only : OnlyNames g.rules start) (reached : ReflTransGen g.Rewrites start text) :
    OnlyNames g.rules text := by
  induction reached with
  | refl => exact only
  | tail earlier step ih =>
    have whole := h.bracketed.paired_of_reached paired earlier
    obtain ⟨r, before, after, found, outcome, chosen, rfl⟩ := step
    obtain ⟨mem, rfl⟩ := applicable?_eq_some found
    obtain ⟨inner, name, noOpen, noClose⟩ := h.name r mem
    have left : Paired before := by
      rw [name] at whole
      exact (whole.beside noOpen noClose).1
    have put := left.append (h.bracketed.paired_outcome mem outcome chosen)
    have first : OnlyNames g.rules before := ih.of_infix (by
      rw [List.append_assoc]
      exact (List.prefix_append before _).isInfix)
    have last : OnlyNames g.rules after := ih.of_infix (List.suffix_append _ after).isInfix
    -- both parts are paired, so nothing in brackets stands across an end of the production
    exact .append put (.append left first (h.onlyNames_outcome mem chosen)) last

/-- A grammar without cycles whose names are texts in brackets, and whose productions are made of
names and of text without brackets: there is a number of steps that no derivation from a rule name
exceeds. If more steps are allowed, an expansion ends with a text without brackets, which it
decodes, and there is no warning; or a draw fails, and there is no text. -/
theorem bracketed_names_expand (built : Built g) (composes : Composes g.rules)
    (acyclic : Acyclic g.rules) :
    ∃ most, ∀ r ∈ g.rules, (∀ k final, g.Derives k r.name.toList final → k ≤ most) ∧
      ∀ (options : Options) (run : Run), most < options.maxIterations →
        let limited : Grammar := { g with options }
        ('<' ∉ derived limited r.name run ∧ '>' ∉ derived limited r.name run ∧
          (∃ source, limited.expandFrom r.name run =
            (.ok (.ok (Text.Entity.decode (String.ofList (derived limited r.name run)))),
              { run with source })) ↔ ¬ Fails limited r.name run) ∧
        (Fails limited r.name run → (limited.expandFrom r.name run).1 = .error .overflow) := by
  have named := composes.bracketed.named
  refine ⟨(g.rules.map fun r => cost g.rules r.name.toList).max?.getD 0, fun r mem => ?_⟩
  have few : cost g.rules r.name.toList ≤
      (g.rules.map fun r => cost g.rules r.name.toList).max?.getD 0 :=
    List.le_max?_getD_of_mem (List.mem_map_of_mem mem)
  have paired := composes.paired_name mem
  have seamless := composes.bracketed.seamless paired
  refine ⟨fun k final steps => ?_, fun options run more => ?_⟩
  · have bound := steps.le_cost acyclic named seamless .refl
    omega
  · intro limited
    have built' : Built limited := built.configure options
    have defined : r.name ∈ limited.rules.map Rule.name := List.mem_map_of_mem mem
    have failure (fails : Fails limited r.name run) :
        (limited.expandFrom r.name run).1 = .error .overflow := by
      obtain ⟨source, failed⟩ := built'.expandFrom_of_fails defined fails
      rw [failed]
    refine ⟨⟨?_, fun whole => ?_⟩, failure⟩
    · rintro ⟨_, _, source, gives⟩ fails
      have failed := failure fails
      rw [gives] at failed
      cases failed
    · obtain ⟨stopped, reached, free⟩ := complete_of_cost_lt (g := limited) acyclic named
        (composes.bracketed.seamless (g := limited) paired) (few.trans_lt more) whole
      have closed := composes.bracketed.paired_of_reached (g := limited) paired reached
      have only := composes.onlyNames_of_reached (g := limited) paired
        (composes.onlyNames_name mem) reached
      obtain ⟨noOpen, noClose⟩ := plain_of_free closed only fun r mem stands => free ⟨r, mem, stands⟩
      exact ⟨noOpen, noClose, built'.expandFrom_of_stopped defined stopped⟩

/-- A rule that is listed before those that lead to it, and a name with nothing in its brackets. -/
def layeredCalls : List Call :=
  [.add (.alternatives "<a>" ["A<>"] 1.0),
    .add (.alternatives "<start>" ["<b> <a>", "<b><b>!"] 1.0),
    .add (.alternatives "<b>" ["B<a>"] 1.0), .add (.alternatives "<>" [] 1.0)]

theorem rules_layered : (after layeredCalls).rules =
    [⟨"<a>", [⟨"A<>", 1.0⟩]⟩, ⟨"<start>", [⟨"<b> <a>", 1.0⟩, ⟨"<b><b>!", 1.0⟩]⟩,
      ⟨"<b>", [⟨"B<a>", 1.0⟩]⟩, ⟨"<>", []⟩] := by
  rw [(represents_after layeredCalls).rules]
  rfl

theorem composes_layered : Composes (after layeredCalls).rules where
  name := by
    rw [rules_layered]
    simp only [List.forall_mem_cons]
    exact ⟨⟨['a'], by decide⟩, ⟨"start".toList, by decide⟩, ⟨['b'], by decide⟩, ⟨[], by decide⟩,
      by simp⟩
  production := by
    rw [rules_layered]
    simp only [List.forall_mem_cons]
    refine ⟨⟨⟨["A".toList, "<>".toList], rfl, by decide⟩, by simp⟩,
      ⟨⟨["<b>".toList, " ".toList, "<a>".toList], rfl, by decide⟩,
        ⟨["<b>".toList, "<b>".toList, "!".toList], rfl, by decide⟩, by simp⟩,
      ⟨⟨["B".toList, "<a>".toList], rfl, by decide⟩, by simp⟩, by simp, by simp⟩

def layer (name : String) : Nat :=
  ["<>", "<a>", "<b>", "<start>"].idxOf name

theorem bracketed_names_expand_of_layers :
    Composes (after layeredCalls).rules ∧ Acyclic (after layeredCalls).rules ∧
    ∃ most, ∀ options : Options, most < options.maxIterations →
      let limited : Grammar := { after layeredCalls with options }
      '<' ∉ derived limited "<start>" ⟨.ofSeed 1, []⟩ ∧
      '>' ∉ derived limited "<start>" ⟨.ofSeed 1, []⟩ ∧
      (limited.expandFrom "<start>" ⟨.ofSeed 1, []⟩).2.notices = [] := by
  have acyclic : Acyclic (after layeredCalls).rules := by
    rw [rules_layered]
    exact acyclic_of_rank layer (by decide)
  have start : ⟨"<start>", [⟨"<b> <a>", 1.0⟩, ⟨"<b><b>!", 1.0⟩]⟩ ∈ (after layeredCalls).rules := by
    rw [rules_layered]
    simp
  have fits : ∀ r ∈ (after layeredCalls).rules, ¬ r.Overflows := by
    rw [rules_layered]
    decide +kernel
  obtain ⟨most, expands⟩ :=
    bracketed_names_expand (built_after layeredCalls) composes_layered acyclic
  refine ⟨composes_layered, acyclic, most, fun options more => ?_⟩
  obtain ⟨noOpen, noClose, source, expanded⟩ :=
    ((expands _ start).2 options ⟨.ofSeed 1, []⟩ more).1.mpr
      (@not_fails { after layeredCalls with options } fits _ _)
  exact ⟨noOpen, noClose, congrArg (fun answer => answer.2.notices) expanded⟩

/- Two productions of one weight. -/

section Even

variable {w : Float} {options : Options}

theorem composes_even (weighs : isWeight w = true) : Composes (even w options).rules := by
  rw [rules_even weighs]
  constructor
  · simp only [List.forall_mem_singleton]
    exact ⟨"start".toList, by decide⟩
  · simp only [List.forall_mem_singleton, List.forall_mem_cons]
    exact ⟨⟨["a".toList], rfl, by simp⟩, ["b".toList], rfl, by simp⟩

theorem acyclic_even (weighs : isWeight w = true) : Acyclic (even w options).rules := by
  rw [rules_even weighs]
  apply acyclic_of_rank fun _ => 0
  simp only [List.forall_mem_singleton, List.map_cons, List.map_nil, List.forall_mem_cons]
  exact ⟨fun stands => absurd stands (by decide), fun stands => absurd stands (by decide)⟩

end Even

/-- A rule without references whose expansion gives no text, however many steps are allowed. -/
theorem not_all_bracketed_expand : ¬ ∀ g : Grammar, Built g → Composes g.rules →
    Acyclic g.rules → ∃ most, ∀ r ∈ g.rules, ∀ (options : Options) (run : Run),
      most < options.maxIterations →
        let limited : Grammar := { g with options }
        '<' ∉ derived limited r.name run ∧ '>' ∉ derived limited r.name run ∧
        ∃ text, (limited.expandFrom r.name run).1 = .ok (.ok text) := by
  intro all
  obtain ⟨w, weighs, overflows⟩ := exists_huge
  obtain ⟨most, expands⟩ := all (even w {}) (built_even w {}) (composes_even weighs)
    (acyclic_even weighs)
  have start : ⟨"<start>", [⟨"a", w⟩, ⟨"b", w⟩]⟩ ∈ (even w {}).rules := by
    rw [rules_even weighs]
    exact List.mem_singleton_self _
  let options : Options := ⟨"<start>", most + 1⟩
  have fails : Fails (even w options) "<start>" ⟨.ofSeed 0, []⟩ :=
    fails_even weighs overflows (Nat.succ_pos most) (.ofSeed 0)
  obtain ⟨_, failed⟩ := (built_even w options).expandFrom_of_fails (defined_even weighs) fails
  obtain ⟨_, _, text, gives⟩ := expands _ start options ⟨.ofSeed 0, []⟩ (Nat.lt_succ_self most)
  cases (congrArg Prod.fst failed).symm.trans gives

end TextGen.Grammar
