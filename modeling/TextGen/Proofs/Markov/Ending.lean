import Mathlib
import TextGen.Pattern.Matching
import TextGen.Proofs.Markov.Outcomes

/-! Generation up to a token that satisfies a test.
A seed of a fixed length is generated first, and the test is applied to the tokens behind it: all of
them fail it but the last one. The seed is never too short for the tokens to begin with, so the only
errors are that these are unknown and that all attempts failed. -/
namespace TextGen.Markov

variable {m : Markov} {o : Options}

theorem seedLength_pos (o : Options) : 0 < o.seedLength := by
  have one : 1 ≤ max o.minLength 1 := Nat.le_max_right _ _
  exact one.trans (Nat.le_max_left _ _)

theorem length_start_le_seedLength (o : Options) :
    (o.startTokens.getD []).length ≤ o.seedLength := Nat.le_max_right _ _

/- What is returned. -/

/-- A seed that begins with the given tokens, tokens that fail the test, and one that satisfies
it. -/
structure EndsAtTest (o : Options) (test : String → Bool) (seed middle : List String)
    (last : String) : Prop where
  length : seed.length = o.seedLength
  start : o.startTokens.getD [] <+: seed
  fails : ∀ token ∈ middle, test token = false
  satisfies : test last = true
  fits : (seed ++ middle ++ [last]).length ≤ o.maxLength

namespace EndsAtTest

variable {test : String → Bool} {seed middle : List String} {last : String}

theorem seedLength_lt (h : EndsAtTest o test seed middle last) :
    o.seedLength < (seed ++ middle ++ [last]).length := by
  have length := h.length
  simp only [List.length_append, List.length_singleton]
  omega

theorem start_prefix (h : EndsAtTest o test seed middle last) :
    o.startTokens.getD [] <+: seed ++ middle ++ [last] := by
  rw [List.append_assoc]
  exact h.start.trans (List.prefix_append _ _)

/-- The places behind the seed and before the last token are those of the tokens between them. -/
theorem fails_at (h : EndsAtTest o test seed middle last) {i : Nat} {token : String}
    (behind : o.seedLength ≤ i) (inner : i + 1 < (seed ++ middle ++ [last]).length)
    (here : (seed ++ middle ++ [last])[i]? = some token) : test token = false := by
  have length := h.length
  simp only [List.length_append, List.length_singleton] at inner
  have between : (seed ++ middle ++ [last])[i]? = middle[i - seed.length]? := by
    rw [List.getElem?_append_left (by rw [List.length_append]; omega)]
    exact List.getElem?_append_right (by omega)
  apply h.fails
  exact List.mem_of_getElem? (between.symm.trans here)

end EndsAtTest

theorem endsAtTest_of_generateUntil {test : String → Bool} {out : List String} {r r' : Run}
    (h : m.generateUntil test o r = (.ok out, r')) :
    ∃ seed middle last, out = seed ++ middle ++ [last] ∧ EndsAtTest o test seed middle last := by
  obtain ⟨seed, r₀, r₁, r₂, seeded, filled⟩ := untilFrom_eq_ok h
  obtain ⟨middle, last, rfl, satisfied, failed, room⟩ := fillUntil_eq_some filled
  have length : seed.length = o.seedLength := length_of_generateTokens _ _ _ _ seeded
  obtain ⟨rest, begun, _⟩ := continues_of_generateTokens (seedLength_pos o) seeded
  refine ⟨seed, middle, last, rfl, length, ⟨rest, begun.symm⟩, failed, satisfied, ?_⟩
  simp only [List.length_append, List.length_singleton]
  omega

/- Errors. -/

theorem error_of_seed (m : Markov) (o : Options) (r : Run) :
    let outcome := (m.generateTokens o.seedLength o.forSeed r).1
    (UnknownStart m o ∧ outcome = .error (.startTokensNotFound (o.startTokens.getD []))) ∨
      (¬ UnknownStart m o ∧ ∀ e, outcome = .error e → e = gaveUp o.forSeed) := by
  intro outcome
  rcases error_of_generateTokens (m := m) (o := o.forSeed) (seedLength_pos o) r with
    ⟨long, _⟩ | ⟨_, unknown, failed⟩ | ⟨_, known, errors⟩
  · exact absurd long (Nat.not_lt_of_le (length_start_le_seedLength o))
  · exact .inl ⟨unknown, failed⟩
  · exact .inr ⟨known, errors⟩

theorem untilFrom_of_unknownStart (unknown : UnknownStart m o) (test : String → Bool) (left : Nat)
    (r : Run) : (m.untilFrom test o.seedLength o (left + 1) r).1 =
      .error (.startTokensNotFound (o.startTokens.getD [])) := by
  rcases error_of_seed m o r with ⟨_, failed⟩ | ⟨known, _⟩
  · rw [untilFrom]
    split
    · rename_i seeded
      exact (congrArg Prod.fst seeded).symm.trans failed
    · rename_i seeded
      cases (congrArg Prod.fst seeded).symm.trans failed
  · exact absurd unknown known

theorem gaveUp_of_untilFrom (known : ¬ UnknownStart m o) (test : String → Bool) (left : Nat)
    (r : Run) (e : Error) (h : (m.untilFrom test o.seedLength o left r).1 = .error e) :
    e = gaveUp o.forSeed ∨ e = gaveUp o := by
  induction left generalizing r with
  | zero =>
    cases h
    exact .inr rfl
  | succ left ih =>
    rw [untilFrom] at h
    split at h
    · rename_i error r₁ seeded
      cases h
      rcases error_of_seed m o r with ⟨unknown, _⟩ | ⟨_, errors⟩
      · exact absurd unknown known
      · exact .inl (errors e (congrArg Prod.fst seeded))
    · split at h
      · cases h
      · exact ih _ h

/-- The result begins with the given tokens and is longer than the seed but no longer than allowed.
Behind the seed its last token satisfies the test and no earlier one does. If the longest result
allowed is no longer than the seed there is none. The tokens to begin with are never too many for
the seed: they are unknown, or else the only error is that all attempts failed. -/
theorem generateUntil_outcomes (m : Markov) (test : String → Bool) (o : Options) (r : Run) :
    let start := o.startTokens.getD []
    let k := max (max o.minLength 1) start.length
    let outcome := (m.generateUntil test o r).1
    (∀ out, outcome = .ok out →
      k < out.length ∧ out.length ≤ o.maxLength ∧ start <+: out ∧
        (∃ last, out.getLast? = some last ∧ test last = true) ∧
        ∀ i token, k ≤ i → i + 1 < out.length → out[i]? = some token → test token = false) ∧
    (∀ e, outcome = .error e →
      e = .startTokensNotFound start ∨ ∃ limited, e = .exhausted 999 limited) ∧
    (outcome = .error (.startTokensNotFound start) ↔ start ≠ [] ∧ m.search? start = none) ∧
    (o.maxLength ≤ k → ∀ out, outcome ≠ .ok out) := by
  intro start k outcome
  have results : ∀ out, outcome = .ok out →
      ∃ seed middle last, out = seed ++ middle ++ [last] ∧ EndsAtTest o test seed middle last := by
    intro out returned
    have generated : m.generateUntil test o r = (.ok out, (m.generateUntil test o r).2) :=
      Prod.ext returned rfl
    exact endsAtTest_of_generateUntil generated
  refine ⟨?_, ?_, ?_, ?_⟩
  · intro out returned
    obtain ⟨seed, middle, last, rfl, ends⟩ := results out returned
    exact ⟨ends.seedLength_lt, ends.fits, ends.start_prefix,
      ⟨last, List.getLast?_concat, ends.satisfies⟩, fun _ _ => ends.fails_at⟩
  · intro e failed
    by_cases unknown : UnknownStart m o
    · have only := untilFrom_of_unknownStart unknown test (attempts - 1) r
      exact .inl (Except.error.inj (failed.symm.trans only))
    · rcases gaveUp_of_untilFrom unknown test attempts r e failed with rfl | rfl
      · exact .inr ⟨_, rfl⟩
      · exact .inr ⟨_, rfl⟩
  · constructor
    · intro failed
      by_contra known
      rcases gaveUp_of_untilFrom known test attempts r _ failed with same | same <;> cases same
    · exact fun unknown => untilFrom_of_unknownStart unknown test (attempts - 1) r
  · intro short out returned
    obtain ⟨seed, middle, last, rfl, ends⟩ := results out returned
    exact absurd (ends.seedLength_lt.trans_le ends.fits) (Nat.not_lt_of_le short)

theorem generateUntil_outcomes_of_bigrams :
    let m := trained 2 (by decide) .plain [.tokens ["the", "cat", "sat", "the", "dog", "sat"]]
    let test := (Pattern.literal ['a', 't']).isMatch
    let r : Run := ⟨⟨[0, 0, 0xF000000000000000, 0], 0⟩, []⟩
    let o : Options := { minLength := 3, maxLength := 6, startTokens := some ["the", "cat"] }
    let out := ["the", "cat", "sat", "the", "dog", "sat"]
    ((m.generateUntil test o r).1 = .ok out ∧ 3 < out.length ∧ out.length ≤ 6 ∧
      ["the", "cat"] <+: out ∧ test "cat" = true ∧ test "dog" = false) ∧
    (3 ≤ 3 ∧ ∀ out, (m.generateUntil test { o with maxLength := 3 } r).1 ≠ .ok out) ∧
    ∃ e, (m.generateUntil test { o with startTokens := some ["zebra"] } r).1 = .error e ∧
      e = .startTokensNotFound ["zebra"] := by
  intro m test r o out
  have returned : (m.generateUntil test o r).1 = .ok out := by decide +kernel
  have cat : test "cat" = true := by decide +kernel
  have ofOut := (generateUntil_outcomes m test o r).1 out returned
  have ofShort := (generateUntil_outcomes m test { o with maxLength := 3 } r).2.2.2
  have ofZebra :=
    (generateUntil_outcomes m test { o with startTokens := some ["zebra"] } r).2.2.1
  refine ⟨⟨returned, ofOut.1, ofOut.2.1, ofOut.2.2.1, cat, ?_⟩, ⟨Nat.le_refl 3, ?_⟩, ?_⟩
  · exact ofOut.2.2.2.2 4 "dog" (by decide) (by decide) rfl
  · exact ofShort (by decide)
  · exact ⟨_, ofZebra.mpr ⟨List.cons_ne_nil _ _, by decide +kernel⟩, rfl⟩

end TextGen.Markov
