import Mathlib
import TextGen.Proofs.Grammar.Derivations

/-! The warning at the limit of an expansion.
It is given if a name stands in the text before the last step that is allowed and no draw fails. So
it is given whenever a text that is decoded holds a name, and also if just that step took the last
name away. -/
namespace TextGen.Grammar

variable {g : Grammar} {name : String} {run : Run}

/-- The text before the last step that is allowed, or the derived text if there are fewer steps. -/
def beforeLast (g : Grammar) (name : String) (run : Run) : List Char :=
  (g.derive (g.options.maxIterations - 1) name.toList run.source).text

def derived (g : Grammar) (name : String) (run : Run) : List Char :=
  (g.derive g.options.maxIterations name.toList run.source).text

/-- The expansion of the rule gives the warning, and no other notice. -/
def Warns (g : Grammar) (name : String) (run : Run) : Prop :=
  (g.expandFrom name run).2.notices =
    ⟨.warning, capText g.options.maxIterations name⟩ :: run.notices

/-- A derivation meets its limit if a name stands in the text before the last step, and no draw
fails. -/
theorem capped_succ_iff (limit : Nat) (text : List Char) (s : Source) :
    (g.derive (limit + 1) text s).ending = .capped ↔
      g.HoldsName (g.derive limit text s).text ∧
      ∀ f, (g.derive (limit + 1) text s).ending ≠ .failed f := by
  -- both derivations begin with the same step, unless the shorter one has none
  induction limit generalizing text s with
  | zero =>
    rcases g.step?_cases text s with ⟨none_, free⟩ | ⟨failed, _⟩ | ⟨new, rest, stepped, _, step⟩
    · simp [derive, none_, free]
    · simp [derive, failed]
    · simp [derive, stepped, step.holdsName]
  | succ limit ih =>
    rcases g.step?_cases text s with ⟨none_, free⟩ | ⟨failed, _⟩ | ⟨new, rest, stepped, _⟩
    · simp [derive, none_, free]
    · simp [derive, failed]
    · rw [derive, derive, stepped]
      exact ih new rest

theorem capped_of_holdsName {limit : Nat} {text : List Char} {s : Source}
    (whole : ¬ ∃ k < limit, g.Breaks (g.derive k text s).text)
    (left : g.HoldsName (g.derive limit text s).text) :
    (g.derive limit text s).ending = .capped := by
  obtain ⟨_, _, _, ended⟩ := derives_derive (g := g) limit text s
  cases ending : (g.derive limit text s).ending with
  | complete =>
    rw [ending] at ended
    exact absurd left ended
  | capped => rfl
  | failed f => exact absurd ((failed_iff limit text s f).mp ending).2 whole

theorem Built.warns_iff_capped (built : Built g) (defined : name ∈ g.rules.map Rule.name) :
    Warns g name run ↔
      (g.derive g.options.maxIterations name.toList run.source).ending = .capped := by
  rw [Warns, built.expandFrom_eq defined]
  cases ended : (g.derive g.options.maxIterations name.toList run.source).ending with
  | complete => simp [ended]
  | capped => simp [ended, Run.warn, Run.note]
  | failed f => simp [ended]

theorem Built.notices_of_not_warns (built : Built g) (defined : name ∈ g.rules.map Rule.name)
    (silent : ¬ Warns g name run) : (g.expandFrom name run).2.notices = run.notices := by
  rw [built.warns_iff_capped defined] at silent
  rw [built.expandFrom_eq defined]
  cases ended : (g.derive g.options.maxIterations name.toList run.source).ending with
  | complete => simp only [ended]
  | capped => exact absurd ended silent
  | failed f => simp only [ended]

theorem Built.expandFrom_of_stopped (built : Built g) (defined : name ∈ g.rules.map Rule.name)
    (stopped : (g.derive g.options.maxIterations name.toList run.source).ending = .complete) :
    ∃ source, g.expandFrom name run =
      (.ok (.ok (Text.Entity.decode (String.ofList (derived g name run)))),
        { run with source }) := by
  refine ⟨(g.derive g.options.maxIterations name.toList run.source).source, ?_⟩
  rw [built.expandFrom_eq defined]
  simp only [stopped]
  rfl

/-- An expansion whose draws do not fail decodes the derived text. With a limit of 1 or more it then
gives the warning if a name stands in the text before the last step that is allowed, and as many
steps were made as are allowed. It gives it whenever a name is left. A warning without a name that
is left is given exactly if the last step that is allowed took the last name away. If a draw fails
there is neither a text nor a warning. -/
theorem warns_iff (built : Built g) (defined : name ∈ g.rules.map Rule.name)
    (positive : 1 ≤ g.options.maxIterations) (run : Run) :
    (Fails g name run → (g.expandFrom name run).1 = .error .overflow ∧ ¬ Warns g name run) ∧
    (¬ Warns g name run → (g.expandFrom name run).2.notices = run.notices) ∧
    (¬ Fails g name run →
      (g.expandFrom name run).1 =
        .ok (.ok (Text.Entity.decode (String.ofList (derived g name run)))) ∧
      (Warns g name run ↔ g.HoldsName (beforeLast g name run)) ∧
      (Warns g name run → g.Derives g.options.maxIterations name.toList (derived g name run)) ∧
      (g.HoldsName (derived g name run) → Warns g name run) ∧
      ((Warns g name run ↔ g.HoldsName (derived g name run)) ↔
        ¬ (g.HoldsName (beforeLast g name run) ∧ ¬ g.HoldsName (derived g name run)))) := by
  have capped : Warns g name run ↔
      (g.derive g.options.maxIterations name.toList run.source).ending = .capped :=
    built.warns_iff_capped defined
  refine ⟨fun fails => ⟨?_, fun warned => ?_⟩, built.notices_of_not_warns defined, fun whole => ?_⟩
  · obtain ⟨source, failed⟩ := built.expandFrom_of_fails defined fails
    rw [failed]
  · have failed := (failed_iff _ _ run.source .overflow).mpr ⟨rfl, fails⟩
    rw [capped.mp warned] at failed
    cases failed
  · have ends (f : Failure) :
        (g.derive g.options.maxIterations name.toList run.source).ending ≠ .failed f :=
      fun failed => whole ((failed_iff _ _ _ f).mp failed).2
    have before : Warns g name run ↔ g.HoldsName (beforeLast g name run) := by
      have last := capped_succ_iff (g := g) (g.options.maxIterations - 1) name.toList run.source
      rw [Nat.sub_add_cancel positive] at last
      rw [capped, last, beforeLast, and_iff_left ends]
    have left : g.HoldsName (derived g name run) → Warns g name run :=
      fun left => capped.mpr (capped_of_holdsName whole left)
    refine ⟨built.expandFrom_of_not_fails defined whole, before, fun warned => ?_, left, ?_⟩
    · obtain ⟨k, _, steps, ended⟩ :=
        derives_derive (g := g) g.options.maxIterations name.toList run.source
      rw [capped.mp warned] at ended
      rwa [show k = _ from ended] at steps
    · rw [← before]
      constructor
      · exact fun same done => done.2 (same.mp done.1)
      · exact fun fair => ⟨fun warned => not_not.mp fun free => fair ⟨warned, free⟩, left⟩

/- A rule whose expansion has three steps. -/

def threeSteps : Grammar where
  rules := [⟨"<a>", [⟨"<b>, <b>", 1.0⟩]⟩, ⟨"<b>", [⟨"x", 1.0⟩]⟩]

def threeStepsWithin (limit : Nat) : Grammar :=
  { after [.add (.alternatives "<a>" ["<b>, <b>"] 1.0), .add (.alternatives "<b>" ["x"] 1.0)] with
    options := ⟨"<a>", limit⟩ }

theorem built_threeStepsWithin (limit : Nat) : Built (threeStepsWithin limit) :=
  (built_after _).configure ⟨"<a>", limit⟩

theorem rules_threeStepsWithin (limit : Nat) :
    (threeStepsWithin limit).rules = threeSteps.rules := by
  refine (represents_after _).rules.trans ?_
  rfl

theorem defined_threeStepsWithin (limit : Nat) :
    "<a>" ∈ (threeStepsWithin limit).rules.map Rule.name := by
  rw [rules_threeStepsWithin]
  decide

theorem holdsName_threeStepsWithin (limit steps : Nat) (s : Source) :
    (threeStepsWithin limit).HoldsName
        ((threeStepsWithin limit).derive steps "<a>".toList s).text ↔
      threeSteps.HoldsName (threeSteps.derive steps "<a>".toList s).text := by
  have same := rules_threeStepsWithin limit
  rw [HoldsName, HoldsName, same, derive_congr same]

theorem holdsName_after_two (s : Source) :
    threeSteps.HoldsName (threeSteps.derive 2 "<a>".toList s).text :=
  ⟨⟨"<b>", [⟨"x", 1.0⟩]⟩, by simp [threeSteps], "x, ".toList, [], rfl⟩

theorem not_holdsName_after_three (s : Source) :
    ¬ threeSteps.HoldsName (threeSteps.derive 3 "<a>".toList s).text := by
  have text : (threeSteps.derive 3 "<a>".toList s).text = "x, x".toList := rfl
  rw [text]
  unfold HoldsName
  decide

theorem not_fails_threeStepsWithin (limit : Nat) (s : Source) :
    ¬ Fails (threeStepsWithin limit) "<a>" ⟨s, []⟩ := by
  have fits : ∀ r ∈ (threeStepsWithin limit).rules, ¬ r.Overflows := by
    rw [rules_threeStepsWithin]
    simp [threeSteps, Rule.Overflows]
  exact not_fails fits _ _

theorem warns_iff_of_three_steps :
    Warns (threeStepsWithin 2) "<a>" ⟨.ofSeed 0, []⟩ ∧
    ¬ (Warns (threeStepsWithin 3) "<a>" ⟨.ofSeed 0, []⟩ ↔
      (threeStepsWithin 3).HoldsName (derived (threeStepsWithin 3) "<a>" ⟨.ofSeed 0, []⟩)) := by
  obtain ⟨_, _, _, left, _⟩ := (warns_iff (built_threeStepsWithin 2) (defined_threeStepsWithin 2)
    (by decide) ⟨.ofSeed 0, []⟩).2.2 (not_fails_threeStepsWithin 2 _)
  obtain ⟨_, _, _, _, fair⟩ := (warns_iff (built_threeStepsWithin 3) (defined_threeStepsWithin 3)
    (by decide) ⟨.ofSeed 0, []⟩).2.2 (not_fails_threeStepsWithin 3 _)
  refine ⟨left ?_, fun same => fair.mp same ⟨?_, ?_⟩⟩
  · exact (holdsName_threeStepsWithin 2 2 _).mpr (holdsName_after_two _)
  · exact (holdsName_threeStepsWithin 3 2 _).mpr (holdsName_after_two _)
  · exact mt (holdsName_threeStepsWithin 3 3 _).mp (not_holdsName_after_three _)

/-- An expansion that is done with the last step that is allowed is warned of. -/
theorem not_all_warnings_true : ¬ ∀ (g : Grammar) (name : String) (run : Run), Built g →
    name ∈ g.rules.map Rule.name → 1 ≤ g.options.maxIterations → ¬ Fails g name run →
    (Warns g name run ↔ g.HoldsName (derived g name run)) := by
  intro all
  have whole := not_fails_threeStepsWithin 3 (.ofSeed 0)
  have fair := all (threeStepsWithin 3) "<a>" ⟨.ofSeed 0, []⟩ (built_threeStepsWithin 3)
    (defined_threeStepsWithin 3) (by decide) whole
  have capped : Warns (threeStepsWithin 3) "<a>" ⟨.ofSeed 0, []⟩ := by
    rw [(built_threeStepsWithin 3).warns_iff_capped (defined_threeStepsWithin 3)]
    refine (capped_succ_iff 2 _ _).mpr
      ⟨(holdsName_threeStepsWithin 3 2 _).mpr (holdsName_after_two _), fun f failed => ?_⟩
    exact whole ((failed_iff _ _ _ f).mp failed).2
  exact not_holdsName_after_three _ ((holdsName_threeStepsWithin 3 3 _).mp (fair.mp capped))

end TextGen.Grammar
