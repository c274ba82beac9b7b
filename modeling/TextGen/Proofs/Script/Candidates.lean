import Mathlib
import TextGen.Proofs.Script.Picks

/-! Picks without repetition.
All alternatives but the last pick are candidates for the next one, however little they weigh. With
two alternatives or more there is a candidate at every pick. -/
namespace TextGen.Script

/-- Among two alternatives or more, picks without repetition go on for ever, and each is another
alternative than the one before. At every pick all alternatives but the last pick are candidates,
and one of the candidates is drawn, never the first option for want of one. -/
theorem never_repeats {weights : List Float} (many : 2 ≤ weights.length) (id : Nat) (s : Source)
    (sources : List Source) :
    let start := (ChoiceState.create id weights .noRepeat s).1
    let picked := start.picks sources
    let c := start.after sources
    picked.length = sources.length ∧ picked.IsChain (· ≠ ·) ∧
    (∀ pick ∈ picked, ∃ i < weights.length, pick = .ok (some i)) ∧
    (∀ i < weights.length, picked.getLast? ≠ some (.ok (some i)) → i ∈ c.candidates) ∧
    ∀ next, ∃ i ∈ c.candidates, (next.item? c.candidates).1 = some i ∧
      (c.select next).1 = .ok (some i) := by
  intro start picked c
  have avoids : start.Avoids weights := ChoiceState.avoids_create id weights s
  obtain ⟨chain, valid, left⟩ := avoids.picks many sources
  refine ⟨start.length_picks sources, chain.tail, valid, fun i inside apart => ?_, fun next => ?_⟩
  · refine left.mem_candidates.mpr ⟨inside, ?_⟩
    by_cases first : sources = []
    · subst first
      exact Option.some_ne_none i
    · intro same
      apply apart
      have several : 2 ≤ start.weights.length := many
      have returned : ∀ pick ∈ picked, ∃ i, pick = .ok i := fun pick mem =>
        have ⟨i, _, drawn⟩ := valid pick mem
        ⟨some i, drawn⟩
      rw [ChoiceState.getLast?_picks several returned first, same]
  · obtain ⟨i, mem, drawn, selected, _⟩ := left.exists_candidate many next
    exact ⟨i, mem, drawn, selected⟩

theorem never_repeats_of_two_weights :
    let weights : List Float := [0.25, 40.0]
    let sources : List Source := [⟨[0], 0⟩, ⟨[0], 1⟩, ⟨[], 2⟩]
    let start := (ChoiceState.create 1 weights .noRepeat ⟨[], 0⟩).1
    let picked := start.picks sources
    let c := start.after sources
    2 ≤ weights.length ∧ picked.length = 3 ∧ picked.IsChain (· ≠ ·) ∧
    (∀ pick ∈ picked, ∃ i < weights.length, pick = .ok (some i)) ∧
    picked.getLast? ≠ some (.ok (some 1)) ∧ 1 ∈ c.candidates ∧
    ∃ i ∈ c.candidates, (Source.item? c.candidates ⟨[7], 7⟩).1 = some i ∧
      (c.select ⟨[7], 7⟩).1 = .ok (some i) := by
  intro weights sources start picked c
  have many : 2 ≤ weights.length := by decide
  have last : picked.getLast? ≠ some (.ok (some 1)) := by decide +kernel
  obtain ⟨length, chain, valid, others, draws⟩ := never_repeats many 1 ⟨[], 0⟩ sources
  exact ⟨many, length, chain, valid, last, others 1 (by decide) last, draws ⟨[7], 7⟩⟩

end TextGen.Script
