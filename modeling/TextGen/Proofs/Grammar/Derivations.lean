import Mathlib
import TextGen.Proofs.Grammar.Refinement
import TextGen.Proofs.Grammar.Stopping
import TextGen.Proofs.Random.Drawn

/-! Derivations.
A step exchanges one name for a production, and an expansion is a sequence of steps from the name of
its rule. It ends when no name stands in the text, or with as many steps as are allowed, or it
breaks off where a draw fails. A draw fails for one reason only: the weights of a rule are all
allowed, but too large to be added up. -/
namespace TextGen.Grammar

/-- A grammar made by calls, with options that were set at any time. -/
inductive Built : Grammar → Prop
  | empty : Built Grammar.empty
  | call {g : Grammar} (c : Call) (before : Built g) : Built (c.run g).1
  | configure {g : Grammar} (options : Options) (before : Built g) : Built { g with options }

/-- The first rule whose name stands in the text is applied at the leftmost place of its name, which
is exchanged for one of the productions. -/
inductive Step (g : Grammar) : List Char → List Char → Prop
  | exchange {earlier later : List Rule} {r : Rule} {before after : List Char} {outcome : String}
      (rules : g.rules = earlier ++ r :: later)
      (first : ∀ other ∈ earlier, ¬ other.name.toList <:+: before ++ r.name.toList ++ after)
      (leftmost : ∀ u v, u ++ r.name.toList ++ v = before ++ r.name.toList ++ after →
        before.length ≤ u.length)
      (chosen : outcome ∈ r.outcomes) :
      Step g (before ++ r.name.toList ++ after) (before ++ outcome.toList ++ after)

/-- So many steps, one after the other. -/
inductive Derives (g : Grammar) : Nat → List Char → List Char → Prop
  | none (text : List Char) : Derives g 0 text text
  | step {k : Nat} {text new final : List Char} (first : g.Step text new)
      (others : Derives g k new final) : Derives g (k + 1) text final

/- Grammars that are built. -/

theorem Represents.configure {g : Grammar} {m : RuleMap} (h : Represents g m) (options : Options) :
    Represents { g with options } m where
  rules := h.rules
  inStep := h.inStep
  checked := h.checked

theorem Built.exists_represents {g : Grammar} (built : Built g) : ∃ m, Represents g m := by
  induction built with
  | empty => exact ⟨_, represents_after []⟩
  | call c _ ih =>
    obtain ⟨m, h⟩ := ih
    exact ⟨_, h.run c⟩
  | configure options _ ih =>
    obtain ⟨m, h⟩ := ih
    exact ⟨m, h.configure options⟩

theorem Built.hasRule_iff {g : Grammar} (built : Built g) (name : String) :
    g.hasRule name = true ↔ name ∈ g.rules.map Rule.name := by
  obtain ⟨m, h⟩ := built.exists_represents
  rw [h.inStep.hasRule_eq_any, List.any_eq_true, List.mem_map]
  simp only [decide_eq_true_eq]

theorem built_after (calls : List Call) : Built (after calls) := by
  induction calls using List.reverseRecOn with
  | nil => exact .empty
  | append_singleton calls c ih =>
    rw [after_concat]
    exact ih.call c

/- Steps. -/

variable {g : Grammar} {text new : List Char} {s : Source}

theorem rewrites_iff_step : g.Rewrites text new ↔ g.Step text new := by
  constructor
  · rintro ⟨r, before, after, found, outcome, chosen, rfl⟩
    obtain ⟨earlier, later, rules, cut, first⟩ := applicable?_eq_some_iff.mp found
    obtain ⟨rfl, leftmost⟩ := Text.cut?_eq_some_iff.mp cut
    exact .exchange rules first leftmost chosen
  · rintro ⟨rules, first, leftmost, chosen⟩
    have cut := Text.cut?_eq_some_iff.mpr ⟨rfl, leftmost⟩
    exact ⟨_, _, _, applicable?_eq_some_iff.mpr ⟨_, _, rules, cut, first⟩, _, chosen, rfl⟩

/-- A derivation with a limit is a sequence of steps. It ends with a text in which no name stands,
or is as long as the limit, or ends before it with a text whose draw fails. -/
theorem derives_derive (limit : Nat) (text : List Char) (s : Source) :
    ∃ k ≤ limit, g.Derives k text (g.derive limit text s).text ∧
      match (g.derive limit text s).ending with
      | .complete => ¬ g.HoldsName (g.derive limit text s).text
      | .capped => k = limit
      | .failed f => f = .overflow ∧ k < limit ∧ g.Breaks (g.derive limit text s).text := by
  induction limit generalizing text s with
  | zero => exact ⟨0, le_rfl, .none text, rfl⟩
  | succ limit ih =>
    unfold derive
    rcases g.step?_cases text s with ⟨none_, free⟩ | ⟨failed, breaks⟩ | ⟨new, rest, stepped, _, step⟩
    · rw [none_]
      exact ⟨0, Nat.zero_le _, .none text, free⟩
    · rw [failed]
      exact ⟨0, Nat.zero_le _, .none text, rfl, Nat.succ_pos limit, breaks⟩
    · rw [stepped]
      obtain ⟨k, few, others, ended⟩ := ih new rest
      refine ⟨k + 1, Nat.succ_le_succ few, .step (rewrites_iff_step.mp step) others, ?_⟩
      dsimp only
      split at ended
      · exact ended
      · exact congrArg (· + 1) ended
      · exact ⟨ended.1, Nat.succ_lt_succ ended.2.1, ended.2.2⟩

/-- A draw of a derivation fails if one of the texts before its limit is one whose draw fails. -/
theorem failed_iff (limit : Nat) (text : List Char) (s : Source) (f : Failure) :
    (g.derive limit text s).ending = .failed f ↔
      f = .overflow ∧ ∃ k < limit, g.Breaks (g.derive k text s).text := by
  induction limit generalizing text s with
  | zero => simp [derive]
  | succ limit ih =>
    rcases g.step?_cases text s with ⟨none_, free⟩ | ⟨failed, breaks⟩ | ⟨new, rest, stepped, whole, _⟩
    · have stays (k : Nat) : (g.derive k text s).text = text := by
        cases k with
        | zero => rfl
        | succ k => rw [derive, none_]
      have holds : ¬ g.Breaks text := fun breaks => free breaks.holdsName
      simp [stays, holds, derive, none_]
    · have first : (g.derive 0 text s).text = text := rfl
      constructor
      · intro ended
        rw [derive, failed] at ended
        cases ended
        exact ⟨rfl, 0, Nat.succ_pos limit, breaks⟩
      · rintro ⟨rfl, _⟩
        rw [derive, failed]
    · have later (k : Nat) : g.derive (k + 1) text s = g.derive k new rest := by
        rw [derive, stepped]
      rw [later, ih]
      refine and_congr_right fun _ => ⟨?_, ?_⟩
      · rintro ⟨k, few, breaks⟩
        exact ⟨k + 1, Nat.succ_lt_succ few, (later k) ▸ breaks⟩
      · rintro ⟨k, few, breaks⟩
        cases k with
        | zero => exact absurd breaks whole
        | succ k => exact ⟨k, Nat.lt_of_succ_lt_succ few, (later k) ▸ breaks⟩

/- Costs. -/

section Cost

open Relation (ReflTransGen)

variable {start final : List Char} {k : Nat}

theorem Derives.reached (steps : g.Derives k text final) : ReflTransGen g.Rewrites text final := by
  induction steps with
  | none => exact .refl
  | step first _ ih => exact .head (rewrites_iff_step.mpr first) ih

theorem Derives.le_cost (acyclic : Acyclic g.rules) (named : Named g.rules)
    (seamless : g.Seamless start) (reached : ReflTransGen g.Rewrites start text)
    (steps : g.Derives k text final) : k + cost g.rules final ≤ cost g.rules text := by
  induction steps with
  | none => exact (Nat.zero_add _).le
  | step first _ ih =>
    have step := rewrites_iff_step.mpr first
    have less := cost_lt_of_rewrites acyclic named seamless reached step
    have others := ih (reached.tail step)
    omega

/-- A derivation that may have more steps than its first text costs ends by itself, unless a draw
fails. -/
theorem complete_of_cost_lt (acyclic : Acyclic g.rules) (named : Named g.rules)
    (seamless : g.Seamless start) {limit : Nat} {s : Source}
    (few : cost g.rules start < limit)
    (whole : ¬ ∃ k < limit, g.Breaks (g.derive k start s).text) :
    (g.derive limit start s).ending = .complete ∧
    ReflTransGen g.Rewrites start (g.derive limit start s).text ∧
    ¬ g.HoldsName (g.derive limit start s).text := by
  obtain ⟨k, _, steps, ended⟩ := derives_derive (g := g) limit start s
  have bound := steps.le_cost acyclic named seamless .refl
  cases ending : (g.derive limit start s).ending with
  | complete =>
    rw [ending] at ended
    exact ⟨rfl, steps.reached, ended⟩
  | capped =>
    rw [ending] at ended
    have long : k = limit := ended
    omega
  | failed f => exact absurd ((failed_iff limit start s f).mp ending).2 whole

end Cost

theorem step?_congr {h : Grammar} (same : g.rules = h.rules) (text : List Char) (s : Source) :
    g.step? text s = h.step? text s := by
  unfold step? applicable?
  rw [same]

theorem derive_congr {h : Grammar} (same : g.rules = h.rules) (limit : Nat) (text : List Char)
    (s : Source) : g.derive limit text s = h.derive limit text s := by
  induction limit generalizing text s with
  | zero => rfl
  | succ limit ih =>
    rw [derive, derive, step?_congr same]
    split
    · exact ih _ _
    · rfl
    · rfl

/- Expansions. -/

theorem rules_ne_nil_of_defined {name : String} (defined : name ∈ g.rules.map Rule.name) :
    g.rules ≠ [] := by
  intro none
  rw [none] at defined
  cases defined

/-- A draw fails before the limit of the expansion. -/
def Fails (g : Grammar) (name : String) (run : Run) : Prop :=
  ∃ k < g.options.maxIterations, g.Breaks (g.derive k name.toList run.source).text

theorem not_fails (fits : ∀ r ∈ g.rules, ¬ r.Overflows) (name : String) (run : Run) :
    ¬ Fails g name run :=
  fun ⟨_, _, breaks⟩ => not_breaks fits _ breaks

theorem Built.expandFrom_eq (built : Built g) {name : String}
    (defined : name ∈ g.rules.map Rule.name) (run : Run) :
    g.expandFrom name run =
      let final := g.derive g.options.maxIterations name.toList run.source
      let run := { run with source := final.source }
      match final.ending with
      | .complete => (.ok (.ok (Text.Entity.decode (String.ofList final.text))), run)
      | .capped => (.ok (.ok (Text.Entity.decode (String.ofList final.text))),
          run.warn (capText g.options.maxIterations name))
      | .failed f => (.error f, run) := by
  have some_ : ¬ g.rules.isEmpty = true := by
    simpa using rules_ne_nil_of_defined defined
  unfold expandFrom
  exact (if_neg some_).trans (if_pos ((built.hasRule_iff name).mpr defined))

theorem Built.expandFrom_of_fails (built : Built g) {name : String}
    (defined : name ∈ g.rules.map Rule.name) {run : Run} (fails : Fails g name run) :
    ∃ source, g.expandFrom name run = (.error .overflow, { run with source }) := by
  have ended := (failed_iff _ _ run.source .overflow).mpr ⟨rfl, fails⟩
  rw [built.expandFrom_eq defined]
  simp only [ended]
  exact ⟨_, rfl⟩

theorem Built.expandFrom_of_not_fails (built : Built g) {name : String}
    (defined : name ∈ g.rules.map Rule.name) {run : Run} (whole : ¬ Fails g name run) :
    (g.expandFrom name run).1 = .ok (.ok (Text.Entity.decode (String.ofList
      (g.derive g.options.maxIterations name.toList run.source).text))) := by
  rw [built.expandFrom_eq defined]
  cases ended : (g.derive g.options.maxIterations name.toList run.source).ending with
  | complete => simp only [ended]
  | capped => simp only [ended]
  | failed f => exact absurd ((failed_iff _ _ _ f).mp ended).2 whole

theorem Built.expandFrom_error_iff (built : Built g) (name : String) (run : Run) (e : Error) :
    (g.expandFrom name run).1 = .ok (.error e) ↔
      (g.rules = [] ∧ e = .noRules) ∨
      (g.rules ≠ [] ∧ name ∉ g.rules.map Rule.name ∧ e = .ruleNotFound name) := by
  by_cases none : g.rules = []
  · have gives : (g.expandFrom name run).1 = .ok (.error .noRules) := by simp [expandFrom, none]
    rw [gives, Except.ok.injEq, Except.error.injEq, eq_comm]
    simp [none]
  · by_cases defined : name ∈ g.rules.map Rule.name
    · rw [built.expandFrom_eq defined]
      dsimp only
      split <;> simp [none, defined]
    · have absent : g.hasRule name = false := by
        rw [← Bool.not_eq_true, built.hasRule_iff]
        exact defined
      have gives : (g.expandFrom name run).1 = .ok (.error (.ruleNotFound name)) := by
        simp [expandFrom, none, absent]
      rw [gives, Except.ok.injEq, Except.error.injEq, eq_comm]
      simp [none, defined]

/-- The expansion of a rule is a derivation from its name, decoded, unless a draw fails before the
limit. The derivation has at most as many steps as the options allow, and ends with a name in the
text only if it has as many. A draw among several productions gives the place of one, or fails where
their weights overflow. The only errors are that there are no rules, or none of the name. -/
theorem expansion_is_derivation (built : Built g) (name : String) (run : Run) :
    (name ∈ g.rules.map Rule.name →
      ((∃ k final, k ≤ g.options.maxIterations ∧ g.Derives k name.toList final ∧
        (¬ g.HoldsName final ∨ k = g.options.maxIterations) ∧
        (g.expandFrom name run).1 = .ok (.ok (Text.Entity.decode (String.ofList final)))) ↔
          ¬ Fails g name run) ∧
      (Fails g name run → (g.expandFrom name run).1 = .error .overflow)) ∧
    (∀ e, (g.expandFrom name run).1 = .ok (.error e) ↔
      (g.rules = [] ∧ e = .noRules) ∨
      (g.rules ≠ [] ∧ name ∉ g.rules.map Rule.name ∧ e = .ruleNotFound name)) ∧
    ∀ r ∈ g.rules, 2 ≤ r.productions.length → ∀ s : Source,
      r.Overflows ∧ r.pick s = (.error .overflow, s) ∨
      ¬ r.Overflows ∧ ∃ i s' p,
        s.weightedIndex? (r.productions.map Production.weight) = (.ok i, s') ∧
        r.productions[i.getD 0]? = some p ∧ r.pick s = (.ok p.text, s') := by
  refine ⟨fun defined => ?_, built.expandFrom_error_iff name run,
    fun r _ several s => r.pick_several several s⟩
  have failure (fails : Fails g name run) : (g.expandFrom name run).1 = .error .overflow := by
    obtain ⟨source, failed⟩ := built.expandFrom_of_fails defined fails
    rw [failed]
  refine ⟨⟨?_, fun whole => ?_⟩, failure⟩
  · rintro ⟨_, _, _, _, _, gives⟩ fails
    rw [failure fails] at gives
    cases gives
  · obtain ⟨k, few, steps, ended⟩ :=
      derives_derive (g := g) g.options.maxIterations name.toList run.source
    refine ⟨k, _, few, steps, ?_, built.expandFrom_of_not_fails defined whole⟩
    split at ended
    · exact .inl ended
    · exact .inr ended
    · rename_i f failed
      exact absurd ((failed_iff _ _ _ f).mp failed).2 whole

/-- Names within one another, one of them without productions. -/
def nestedCalls : List Call :=
  [.add (.alternatives "ab" ["x ab", "&lt;a", "aab"] 1.0), .add (.alternatives "a" [] 1.0)]

theorem rules_nested : (after nestedCalls).rules =
    [⟨"ab", [⟨"x ab", 1.0⟩, ⟨"&lt;a", 1.0⟩, ⟨"aab", 1.0⟩]⟩, ⟨"a", []⟩] := by
  rw [(represents_after nestedCalls).rules]
  rfl

theorem expansion_is_derivation_of_nested_names :
    let g : Grammar := { after nestedCalls with options := ⟨"ab", 2⟩ }
    (∃ k final, k ≤ 2 ∧ g.Derives k "ab".toList final ∧ (¬ g.HoldsName final ∨ k = 2) ∧
      (g.expandFrom "ab" ⟨.ofSeed 3, []⟩).1 =
        .ok (.ok (Text.Entity.decode (String.ofList final)))) ∧
    (g.expandFrom "b" ⟨.ofSeed 3, []⟩).1 = .ok (.error (.ruleNotFound "b")) := by
  intro g
  have built : Built g := (built_after nestedCalls).configure ⟨"ab", 2⟩
  have own : g.rules = _ := rules_nested
  have defined : "ab" ∈ g.rules.map Rule.name := by
    rw [own]
    decide
  have absent : g.rules ≠ [] ∧ "b" ∉ g.rules.map Rule.name := by
    rw [own]
    decide
  have fits : ∀ r ∈ g.rules, ¬ r.Overflows := by
    rw [own]
    decide +kernel
  exact ⟨((expansion_is_derivation built "ab" _).1 defined).1.mpr (not_fails fits _ _),
    ((expansion_is_derivation built "b" _).2.1 _).mpr (.inr ⟨absent.1, absent.2, rfl⟩)⟩

/- Two productions of one weight. -/

def evenCalls (w : Float) : List Call := [.add (.alternatives "<start>" ["a", "b"] w)]

def even (w : Float) (options : Options) : Grammar := { after (evenCalls w) with options }

theorem built_even (w : Float) (options : Options) : Built (even w options) :=
  (built_after (evenCalls w)).configure options

variable {w : Float} {options : Options}

theorem rules_even (weighs : isWeight w = true) :
    (even w options).rules = [⟨"<start>", [⟨"a", w⟩, ⟨"b", w⟩]⟩] := by
  have accepted : (Addition.alternatives "<start>" ["a", "b"] w).accepted.1 =
      [("<start>", [⟨"a", w⟩, ⟨"b", w⟩])] := by
    simp only [Addition.accepted, productions?]
    rw [if_pos weighs]
    rfl
  refine (represents_after (evenCalls w)).rules.trans ?_
  simp only [RuleMap.after, evenCalls, List.foldl_cons, List.foldl_nil, RuleMap.change, accepted]
  rfl

theorem defined_even (weighs : isWeight w = true) :
    "<start>" ∈ (even w options).rules.map Rule.name := by
  rw [rules_even weighs]
  simp

theorem fails_even (weighs : isWeight w = true) (overflows : Source.Overflows [w, w])
    (positive : 0 < options.maxIterations) (s : Source) :
    Fails (even w options) "<start>" ⟨s, []⟩ := by
  have first : (even w options).rules.find? (fun r => r.name.toList <:+: "<start>".toList) =
      some ⟨"<start>", [⟨"a", w⟩, ⟨"b", w⟩]⟩ := by
    rw [rules_even weighs]
    exact List.find?_cons_of_pos (decide_eq_true List.infix_rfl)
  exact ⟨0, positive, _, first, le_rfl, overflows⟩

theorem exists_huge : ∃ w, isWeight w = true ∧ Source.Overflows [w, w] :=
  ⟨1e308, by decide +kernel, by decide +kernel⟩

/-- The expansion of a rule with such weights gives no text. -/
theorem not_all_expansions_derive : ¬ ∀ (g : Grammar) (name : String) (run : Run), Built g →
    name ∈ g.rules.map Rule.name → ∃ k final, k ≤ g.options.maxIterations ∧
      g.Derives k name.toList final ∧ (¬ g.HoldsName final ∨ k = g.options.maxIterations) ∧
      (g.expandFrom name run).1 = .ok (.ok (Text.Entity.decode (String.ofList final))) := by
  intro all
  obtain ⟨w, weighs, overflows⟩ := exists_huge
  have built := built_even w {}
  have fails : Fails (even w {}) "<start>" ⟨.ofSeed 0, []⟩ :=
    fails_even weighs overflows (Nat.succ_pos 999) (.ofSeed 0)
  obtain ⟨_, _, _, _, _, gives⟩ := all _ _ ⟨.ofSeed 0, []⟩ built (defined_even weighs)
  obtain ⟨_, failed⟩ := built.expandFrom_of_fails (defined_even weighs) fails
  rw [failed] at gives
  cases gives

end TextGen.Grammar
