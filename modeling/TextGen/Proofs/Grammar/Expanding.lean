import Mathlib
import TextGen.Proofs.Grammar.Brackets
import TextGen.Proofs.Grammar.Warnings
import TextGen.Proofs.Text.Decoding

/-! What an expansion returns.
The derived text holds no name, and what is returned is that text with its character references
decoded. -/
namespace TextGen.Grammar

open Relation (ReflTransGen)

/- The options stay as they are. -/

theorem options_insert (g : Grammar) (name : String) (new : List Production) :
    (g.insert name new).options = g.options := by
  have placed : (g.place name).2.options = g.options := by
    unfold Grammar.place
    split
    · rfl
    · rfl
  exact placed

theorem options_insertAll (g : Grammar) (entries : List Entry) :
    (g.insertAll entries).options = g.options := by
  unfold insertAll
  induction entries generalizing g with
  | nil => rfl
  | cons entry entries ih => rw [List.foldl_cons, ih, options_insert]

theorem options_run (g : Grammar) (call : Call) : (call.run g).1.options = g.options := by
  cases call with
  | add a =>
    rw [Call.run, a.run_eq]
    exact g.options_insertAll a.accepted.1
  | remove name =>
    simp only [Call.run, Grammar.remove]
    split
    · rfl
    · rfl
  | clear => rfl

theorem options_after (calls : List Call) : (after calls).options = {} := by
  induction calls using List.reverseRecOn with
  | nil => rfl
  | append_singleton calls call ih => rw [after_concat, options_run, ih]

variable {g : Grammar} {start text : List Char}

theorem not_mem_of_reached {c : Char} (outside : c ∉ start)
    (plain : ∀ r ∈ g.rules, ∀ p ∈ r.productions, c ∉ p.text.toList)
    (reached : ReflTransGen g.Rewrites start text) : c ∉ text := by
  induction reached with
  | refl => exact outside
  | tail _ step ih =>
    obtain ⟨r, before, after, found, outcome, inside, rfl⟩ := step
    obtain ⟨mem, rfl⟩ := applicable?_eq_some found
    have put : c ∉ outcome.toList := by
      unfold Rule.outcomes at inside
      split at inside
      · obtain rfl := List.mem_singleton.mp inside
        simp
      · obtain ⟨p, own, rfl⟩ := List.mem_map.mp inside
        exact plain r mem p own
    simp only [List.mem_append, not_or] at ih ⊢
    exact ⟨⟨ih.1.1, put⟩, ih.2⟩

theorem hasRule_after (calls : List Call) (name : String) :
    (after calls).hasRule name = (after calls).rules.any fun r => r.name = name :=
  (represents_after calls).inStep.hasRule_eq_any name

theorem hasRule_of_rules {calls : List Call} {rules : List Rule} {name : String}
    (own : (after calls).rules = rules) (present : (rules.any fun r => r.name = name) = true) :
    (after calls).hasRule name = true := by
  rw [hasRule_after, own, present]

theorem expand_after (calls : List Call) (run : Run) :
    (after calls).expand run = (after calls).expandFrom "<start>" run := by
  rw [expand, options_after]

/- A grammar in brackets. -/

def pairCalls : List Call :=
  [.add (.alternatives "<start>" ["<a> and <a>"] 1.0), .add (.alternatives "<a>" ["x", "y"] 1.0)]

theorem rules_pair : (after pairCalls).rules =
    [⟨"<start>", [⟨"<a> and <a>", 1.0⟩]⟩, ⟨"<a>", [⟨"x", 1.0⟩, ⟨"y", 1.0⟩]⟩] := by
  rw [(represents_after pairCalls).rules]
  rfl

theorem bracketed_pair : Bracketed (after pairCalls).rules where
  name := by
    rw [rules_pair]
    simp only [List.forall_mem_cons]
    exact ⟨⟨"start".toList, by decide⟩, ⟨"a".toList, by decide⟩, by simp⟩
  production := by
    rw [rules_pair]
    decide

def startRank (name : String) : Nat := if name = "<start>" then 1 else 0

/-- A grammar whose rules do not refer to one another in a circle, with no name empty or formed by
accident, is expanded before the limit if its start costs less and no draw fails. The expansion is a
derived text in which no name stands, decoded; without ampersands in the productions it is the
derived text. -/
theorem expand_stops (calls : List Call) (run : Run)
    (started : (after calls).hasRule "<start>" = true)
    (acyclic : Acyclic (after calls).rules) (named : Named (after calls).rules)
    (seamless : (after calls).Seamless "<start>".toList)
    (few : cost (after calls).rules "<start>".toList < 1000)
    (whole : ¬ Fails (after calls) "<start>" run) :
    ((after calls).derive 1000 "<start>".toList run.source).ending = .complete ∧
    ∃ text source, ReflTransGen (after calls).Rewrites "<start>".toList text ∧
      (∀ r ∈ (after calls).rules, ¬ r.name.toList <:+: text) ∧
      (after calls).expand run =
        (.ok (.ok (Text.Entity.decode (String.ofList text))), { run with source }) ∧
      ((∀ r ∈ (after calls).rules, ∀ p ∈ r.productions, '&' ∉ p.text.toList) →
        Text.Entity.decode (String.ofList text) = String.ofList text) := by
  have built := built_after calls
  have limit : (after calls).options.maxIterations = 1000 := by rw [options_after]
  rw [Fails, limit] at whole
  obtain ⟨stopped, reached, free⟩ := complete_of_cost_lt acyclic named seamless few whole
  have ended : ((after calls).derive (after calls).options.maxIterations "<start>".toList
      run.source).ending = .complete := by rw [limit, stopped]
  obtain ⟨source, expanded⟩ :=
    built.expandFrom_of_stopped ((built.hasRule_iff "<start>").mp started) ended
  rw [derived, limit, ← expand_after] at expanded
  refine ⟨stopped, _, source, reached, fun r mem stands => free ⟨r, mem, stands⟩, expanded, ?_⟩
  intro plain
  exact Text.Entity.decode_eq_self (not_mem_of_reached (by decide) plain reached)

theorem expand_stops_of_pair :
    ∃ text source, (after pairCalls).expand ⟨.ofSeed 0, []⟩ = (.ok (.ok text), ⟨source, []⟩) ∧
      ∀ r ∈ (after pairCalls).rules, ¬ r.name.toList <:+: text.toList := by
  have acyclic : Acyclic (after pairCalls).rules := by
    rw [rules_pair]
    exact acyclic_of_rank startRank (by decide)
  have started := @hasRule_of_rules _ _ "<start>" rules_pair (by decide)
  have named : Named (after pairCalls).rules := by
    rw [rules_pair, Named]
    decide
  have few : cost (after pairCalls).rules "<start>".toList < 1000 := by
    rw [rules_pair]
    decide
  have fits : ∀ r ∈ (after pairCalls).rules, ¬ r.Overflows := by
    rw [rules_pair]
    decide +kernel
  have plain : ∀ r ∈ (after pairCalls).rules, ∀ p ∈ r.productions, '&' ∉ p.text.toList := by
    rw [rules_pair]
    decide
  obtain ⟨_, text, source, _, free, expanded, undecoded⟩ := expand_stops pairCalls
    ⟨.ofSeed 0, []⟩ started acyclic named (bracketed_pair.seamless (by decide)) few
    (not_fails fits _ _)
  rw [undecoded plain] at expanded
  exact ⟨String.ofList text, source, expanded, by simpa using free⟩

/- Grammars that are not covered. -/

/-- What one would expect of a grammar whose rules do not refer to one another in a circle. -/
def Expands (calls : List Call) : Prop :=
  Acyclic (after calls).rules → (after calls).hasRule "<start>" = true → ∀ run : Run,
    ∃ text source, (after calls).expand run = (.ok (.ok text), { run with source }) ∧
      ∀ r ∈ (after calls).rules, ¬ r.name.toList <:+: text.toList

theorem derive_capped {texts : List (List Char)}
    (round : ∀ text ∈ texts, ∀ s, ∃ new s', g.step? text s = some (.ok new, s') ∧ new ∈ texts)
    (mem : text ∈ texts) (limit : Nat) (s : Source) :
    (g.derive limit text s).ending = .capped := by
  induction limit generalizing text s with
  | zero => rfl
  | succ limit ih =>
    obtain ⟨new, rest, stepped, inside⟩ := round text mem s
    unfold derive
    rw [stepped]
    exact ih inside rest

theorem not_expands_of_capped {calls : List Call} {rules : List Rule}
    (own : (after calls).rules = rules) (acyclic : Acyclic rules)
    (present : (rules.any fun r => r.name = "<start>") = true)
    (capped : ∀ s, ((after calls).derive 1000 "<start>".toList s).ending = .capped) :
    ¬ Expands calls := by
  intro expands
  have started := hasRule_of_rules own present
  have defined := ((built_after calls).hasRule_iff "<start>").mp started
  obtain ⟨text, source, expanded, _⟩ := expands (own ▸ acyclic) started ⟨.ofSeed 0, []⟩
  have warned : Warns (after calls) "<start>" ⟨.ofSeed 0, []⟩ := by
    rw [(built_after calls).warns_iff_capped defined, options_after]
    exact capped _
  rw [Warns, ← expand_after, expanded] at warned
  cases warned

def crowdedCalls (n : Nat) : List Call :=
  [.add (.alternatives "<start>" [String.ofList (List.replicate n 'x')] 1.0),
    .add (.alternatives "x" [""] 1.0)]

theorem not_mem_replicate {c d : Char} (other : c ≠ d) (n : Nat) : c ∉ List.replicate n d :=
  fun mem => other (List.mem_replicate.mp mem).2

theorem rules_crowded (n : Nat) : (after (crowdedCalls n)).rules =
    [⟨"<start>", [⟨String.ofList (List.replicate n 'x'), 1.0⟩]⟩, ⟨"x", [⟨"", 1.0⟩]⟩] := by
  have first : (Addition.alternatives "<start>" [String.ofList (List.replicate n 'x')]
      1.0).accepted.1 = [("<start>", [⟨String.ofList (List.replicate n 'x'), 1.0⟩])] := by
    simp only [Addition.accepted, productions?]
    rw [if_pos (by decide), List.mapM_cons, Production.ofText, String.toList_ofList,
      weighted?_eq_none (not_mem_replicate (by decide) n)]
    rfl
  rw [(represents_after (crowdedCalls n)).rules]
  simp only [RuleMap.after, crowdedCalls, List.foldl_cons, List.foldl_nil, RuleMap.change, first]
  rfl

theorem not_start_in_replicate (n : Nat) : ¬ "<start>".toList <:+: List.replicate n 'x' := by
  intro inside
  have bracket : '<' ∈ List.replicate n 'x' := inside.subset (by decide)
  exact not_mem_replicate (by decide) n bracket

theorem acyclic_crowded (n : Nat) : Acyclic
    [⟨"<start>", [⟨String.ofList (List.replicate n 'x'), 1.0⟩]⟩, ⟨"x", [⟨"", 1.0⟩]⟩] := by
  apply acyclic_of_rank startRank
  intro r mem b named p inside stands
  simp only [List.mem_cons, List.not_mem_nil, or_false, List.map_cons, List.map_nil] at mem named
  rcases mem with rfl | rfl
  · obtain rfl := List.mem_singleton.mp inside
    rw [String.toList_ofList] at stands
    rcases named with rfl | rfl
    · exact absurd stands (not_start_in_replicate n)
    · change startRank "x" < startRank "<start>"
      decide
  · obtain rfl := List.mem_singleton.mp inside
    rcases named with rfl | rfl
    · exact absurd stands (by decide)
    · exact absurd stands (by decide)

theorem capped_of_replicate (n limit : Nat) (s : Source) : ((after (crowdedCalls n)).derive limit
    (List.replicate (limit + 1) 'x') s).ending = .capped := by
  -- each step takes one place away
  induction limit with
  | zero => rfl
  | succ limit ih =>
    have step : (after (crowdedCalls n)).step? (List.replicate (limit + 1 + 1) 'x') s =
        some (.ok (List.replicate (limit + 1) 'x'), s) := by
      unfold step? applicable?
      rw [rules_crowded, List.findSome?_cons,
        Text.cut?_eq_none_iff.mpr (not_start_in_replicate (limit + 1 + 1))]
      rfl
    unfold derive
    rw [step]
    exact ih

theorem capped_crowded (n : Nat) (s : Source) :
    ((after (crowdedCalls n)).derive n "<start>".toList s).ending = .capped := by
  cases n with
  | zero => rfl
  | succ n =>
    have cut : Text.cut? "<start>".toList "<start>".toList = some ([], []) := rfl
    have step : (after (crowdedCalls (n + 1))).step? "<start>".toList s =
        some (.ok (List.replicate (n + 1) 'x'), s) := by
      unfold step? applicable?
      rw [rules_crowded, List.findSome?_cons, cut]
      simp [Rule.pick]
    unfold derive
    rw [step]
    exact capped_of_replicate (n + 1) n s

theorem not_expands_crowded : ¬ Expands (crowdedCalls 1000) :=
  not_expands_of_capped (rules_crowded 1000) (acyclic_crowded 1000) rfl (capped_crowded 1000)

def seamCalls : List Call :=
  [.add (.alternatives "<start>" ["PQ"] 1.0), .add (.alternatives "P" ["a"] 1.0),
    .add (.alternatives "Q" ["b"] 1.0), .add (.alternatives "ab" ["PQ"] 1.0)]

theorem rules_seam : (after seamCalls).rules =
    [⟨"<start>", [⟨"PQ", 1.0⟩]⟩, ⟨"P", [⟨"a", 1.0⟩]⟩, ⟨"Q", [⟨"b", 1.0⟩]⟩,
      ⟨"ab", [⟨"PQ", 1.0⟩]⟩] := by
  rw [(represents_after seamCalls).rules]
  rfl

theorem not_expands_seam : ¬ Expands seamCalls := by
  apply not_expands_of_capped rules_seam
  · exact acyclic_of_rank (fun name => if name = "P" ∨ name = "Q" then 0 else 1) (by decide)
  · decide
  · have round : ∀ text ∈ ["<start>".toList, "PQ".toList, "aQ".toList, "ab".toList], ∀ s,
        ∃ new s', (after seamCalls).step? text s = some (.ok new, s') ∧
          new ∈ ["<start>".toList, "PQ".toList, "aQ".toList, "ab".toList] := by
      intro text mem s
      simp only [List.mem_cons, List.not_mem_nil, or_false] at mem
      unfold step? applicable?
      rw [rules_seam]
      rcases mem with rfl | rfl | rfl | rfl
      · exact ⟨"PQ".toList, s, rfl, by decide⟩
      · exact ⟨"aQ".toList, s, rfl, by decide⟩
      · exact ⟨"ab".toList, s, rfl, by decide⟩
      · exact ⟨"PQ".toList, s, rfl, by decide⟩
    exact derive_capped round (by decide) 1000

def emptyCalls : List Call :=
  [.add (.alternatives "<start>" ["x"] 1.0), .add (.alternatives "" [] 1.0)]

theorem rules_empty : (after emptyCalls).rules = [⟨"<start>", [⟨"x", 1.0⟩]⟩, ⟨"", []⟩] := by
  rw [(represents_after emptyCalls).rules]
  rfl

theorem not_expands_empty : ¬ Expands emptyCalls := by
  apply not_expands_of_capped rules_empty
  · exact acyclic_of_rank startRank (by decide)
  · decide
  · have round : ∀ text ∈ ["<start>".toList, "x".toList], ∀ s,
        ∃ new s', (after emptyCalls).step? text s = some (.ok new, s') ∧
          new ∈ ["<start>".toList, "x".toList] := by
      intro text mem s
      simp only [List.mem_cons, List.not_mem_nil, or_false] at mem
      unfold step? applicable?
      rw [rules_empty]
      rcases mem with rfl | rfl
      · exact ⟨"x".toList, s, rfl, by decide⟩
      · exact ⟨"x".toList, s, rfl, by decide⟩
    exact derive_capped round (by decide) 1000

def encodedCalls : List Call := [.add (.alternatives "<start>" ["&lt;start&gt;"] 1.0)]

theorem rules_encoded : (after encodedCalls).rules = [⟨"<start>", [⟨"&lt;start&gt;", 1.0⟩]⟩] := by
  rw [(represents_after encodedCalls).rules]
  rfl

theorem derive_encoded (limit : Nat) (s : Source) :
    ((after encodedCalls).derive (limit + 2) "<start>".toList s).text =
      "&lt;start&gt;".toList := by
  have first : (after encodedCalls).step? "<start>".toList s =
      some (.ok "&lt;start&gt;".toList, s) := by
    unfold step? applicable?
    rw [rules_encoded]
    rfl
  have last : (after encodedCalls).step? "&lt;start&gt;".toList s = none := by
    unfold step? applicable?
    rw [rules_encoded]
    rfl
  rw [derive, first]
  dsimp only
  rw [derive, last]

theorem not_expands_encoded : ¬ Expands encodedCalls := by
  have acyclic : Acyclic (after encodedCalls).rules := by
    rw [rules_encoded]
    exact acyclic_of_rank startRank (by decide)
  have started := @hasRule_of_rules _ _ "<start>" rules_encoded (by decide)
  intro expands
  obtain ⟨text, source, expanded, free⟩ := expands acyclic started ⟨⟨[], 0⟩, []⟩
  have fits : ∀ r ∈ (after encodedCalls).rules, ¬ r.Overflows := by
    rw [rules_encoded]
    simp [Rule.Overflows]
  have gives := (built_after encodedCalls).expandFrom_of_not_fails
    (((built_after encodedCalls).hasRule_iff "<start>").mp started)
    (not_fails fits "<start>" ⟨⟨[], 0⟩, []⟩)
  rw [← expand_after, expanded, options_after] at gives
  have answer : text = Text.Entity.decode (String.ofList
      ((after encodedCalls).derive (998 + 2) "<start>".toList ⟨[], 0⟩).text) :=
    Except.ok.inj (Except.ok.inj gives)
  rw [derive_encoded] at answer
  have decoded : text = "<start>" := answer.trans (by decide)
  rw [rules_encoded] at free
  subst decoded
  exact free _ (List.mem_singleton_self _) List.infix_rfl

/-- Acyclic grammars whose expansions reach the limit, or end with a text in which a name stands. -/
theorem not_all_acyclic_expand : ¬ Expands (crowdedCalls 1000) ∧ ¬ Expands seamCalls ∧
    ¬ Expands emptyCalls ∧ ¬ Expands encodedCalls :=
  ⟨not_expands_crowded, not_expands_seam, not_expands_empty, not_expands_encoded⟩

end TextGen.Grammar
