import Mathlib
import TextGen.Proofs.Markov.Seeds

/-! What comes of a request for tokens.
Either as many tokens as are asked for: those to begin with, and then only words. Or an error: too
many tokens to begin with, unknown ones, or a last attempt that failed. A request for no tokens at
all is granted before the tokens to begin with are looked at. -/
namespace TextGen.Markov

variable {m : Markov} {o : Options}

def Continues (start tokens : List String) : Prop :=
  ∃ rest, tokens = start ++ rest ∧ marker ∉ rest

theorem kept_continues (start : List String) (limit : Option Nat) :
    m.KeptByExtension (Continues start) limit := by
  rintro _ token r r' ⟨rest, rfl, words⟩ extended
  have word : token ≠ marker := ne_marker_of_extend? m limit (start ++ rest) r r' token extended
  refine ⟨rest ++ [token], List.append_assoc _ _ _, fun mem => ?_⟩
  rcases List.mem_append.mp mem with earlier | last
  · exact words earlier
  · exact word (List.mem_singleton.mp last).symm

theorem start_continues (trie : Trie) :
    m.HoldsAtStart o (Continues (o.startTokens.getD [])) trie := by
  intro start r r' begun
  rcases startTokens_eq_ok begun with ⟨_, rfl⟩ | ⟨free, rfl | ⟨p, s, picked, rfl⟩⟩
  · exact ⟨[], (List.append_nil _).symm, List.not_mem_nil⟩
  · exact ⟨[], by rw [free, List.append_nil], List.not_mem_nil⟩
  · have word := trie.ne_marker_of_pick r.source s p picked
    exact ⟨[p.token], by rw [free, List.nil_append],
      fun mem => word (List.mem_singleton.mp mem).symm⟩

/- Errors. -/

/-- There are tokens to begin with, and the context that they end with was never seen. -/
def UnknownStart (m : Markov) (o : Options) : Prop :=
  o.startTokens.getD [] ≠ [] ∧ m.search? (o.startTokens.getD []) = none

theorem startTokens_eq_error_iff (trie : Trie) (r : Run) (e : Error) :
    (m.startTokens o trie r).1 = .error e ↔
      UnknownStart m o ∧ e = .startTokensNotFound (o.startTokens.getD []) := by
  rw [startTokens, UnknownStart]
  split
  · rename_i free
    simp [free]
  · rename_i asked
    cases m.search? (o.startTokens.getD []) with
    | none =>
      constructor
      · rintro ⟨⟩
        exact ⟨⟨asked, rfl⟩, rfl⟩
      · rintro ⟨_, rfl⟩
        rfl
    | some below =>
      constructor
      · rintro ⟨⟩
      · rintro ⟨⟨_, ⟨⟩⟩, _⟩

theorem tokensFrom_of_unknownStart (unknown : UnknownStart m o) (num left : Nat) (r : Run) :
    (m.tokensFrom num o (left + 1) r).1 =
      .error (.startTokensNotFound (o.startTokens.getD [])) := by
  have failed := (startTokens_eq_error_iff m.trie r _).mpr ⟨unknown, rfl⟩
  rw [tokensFrom]
  split
  · rename_i begun
    rw [begun] at failed
    exact failed
  · rename_i begun
    rw [begun] at failed
    cases failed

theorem gaveUp_of_tokensFrom (known : ¬ UnknownStart m o) (num left : Nat) (r : Run) (e : Error)
    (h : (m.tokensFrom num o left r).1 = .error e) : e = gaveUp o := by
  induction left generalizing r with
  | zero =>
    cases h
    rfl
  | succ left ih =>
    rw [tokensFrom] at h
    split at h
    · rename_i error r₁ begun
      have failed : (m.startTokens o m.trie r).1 = .error error := by rw [begun]
      exact absurd ((startTokens_eq_error_iff m.trie r error).mp failed).1 known
    · split at h
      · cases h
      · exact ih _ h

/- Whole requests. -/

theorem generateTokens_of_pos {num : Nat} (some_ : 0 < num) (r : Run) :
    m.generateTokens num o r =
      if num < (o.startTokens.getD []).length then
        (.error (.startTooLong (o.startTokens.getD []).length num), r)
      else m.tokensFrom num o attempts r := by
  rw [generateTokens, if_neg (Nat.ne_of_gt some_)]

theorem continues_of_generateTokens {num : Nat} (some_ : 0 < num) {out : List String} {r r' : Run}
    (h : m.generateTokens num o r = (.ok out, r')) : Continues (o.startTokens.getD []) out := by
  rw [generateTokens_of_pos some_] at h
  split at h
  · cases h
  · exact of_tokensFrom (kept_continues _ _) (start_continues m.trie) num attempts out r r' h

theorem error_of_generateTokens {num : Nat} (some_ : 0 < num) (r : Run) :
    let start := o.startTokens.getD []
    let outcome := (m.generateTokens num o r).1
    (num < start.length ∧ outcome = .error (.startTooLong start.length num)) ∨
      (start.length ≤ num ∧ UnknownStart m o ∧ outcome = .error (.startTokensNotFound start)) ∨
      (start.length ≤ num ∧ ¬ UnknownStart m o ∧ ∀ e, outcome = .error e → e = gaveUp o) := by
  intro start outcome
  have request : outcome = (if num < start.length then
      (.error (.startTooLong start.length num), r) else m.tokensFrom num o attempts r).1 :=
    congrArg Prod.fst (generateTokens_of_pos some_ r)
  rcases Nat.lt_or_ge num start.length with long | fits
  · rw [if_pos long] at request
    exact .inl ⟨long, request⟩
  · rw [if_neg (Nat.not_lt_of_le fits)] at request
    by_cases unknown : UnknownStart m o
    · exact .inr (.inl ⟨fits, unknown,
        request.trans (tokensFrom_of_unknownStart unknown num (attempts - 1) r)⟩)
    · refine .inr (.inr ⟨fits, unknown, fun e failed => ?_⟩)
      exact gaveUp_of_tokensFrom unknown num attempts r e (request.symm.trans failed)

/-- As many tokens as were asked for are generated, and they continue those to begin with by words.
If there are too many of these, or unknown ones, an error says so; otherwise the only error is that
all attempts failed. A request for no tokens is granted whatever there is to begin with. -/
theorem generateTokens_outcomes (m : Markov) (num : Nat) (o : Options) (r : Run) :
    let start := o.startTokens.getD []
    let outcome := (m.generateTokens num o r).1
    (∀ out, outcome = .ok out →
      out.length = num ∧ (0 < num → ∃ rest, out = start ++ rest ∧ marker ∉ rest)) ∧
    (num = 0 → outcome = .ok []) ∧
    (0 < num →
      ((∃ length limit, outcome = .error (.startTooLong length limit)) ↔ num < start.length) ∧
      ((∃ tokens, outcome = .error (.startTokensNotFound tokens)) ↔
        start ≠ [] ∧ start.length ≤ num ∧ m.search? start = none) ∧
      ∀ e, outcome = .error e → e = .startTooLong start.length num ∨
        e = .startTokensNotFound start ∨ e = .exhausted 999 o.maxLengthMatch.isSome) := by
  intro start outcome
  refine ⟨fun out granted => ?_, ?_, fun some_ => ?_⟩
  · have generated : m.generateTokens num o r = (.ok out, (m.generateTokens num o r).2) :=
      Prod.ext granted rfl
    exact ⟨length_of_generateTokens num out r _ generated,
      fun some_ => continues_of_generateTokens some_ generated⟩
  · rintro rfl
    rfl
  · rcases error_of_generateTokens (m := m) (o := o) some_ r with
      ⟨long, failed⟩ | ⟨fits, unknown, failed⟩ | ⟨fits, known, errors⟩
    · have only : outcome = .error (.startTooLong start.length num) := failed
      rw [only]
      refine ⟨⟨fun _ => long, fun _ => ⟨_, _, rfl⟩⟩, ⟨?_, ?_⟩, ?_⟩
      · rintro ⟨_, ⟨⟩⟩
      · exact fun ⟨_, fits, _⟩ => absurd long (Nat.not_lt_of_le fits)
      · rintro _ ⟨⟩
        exact .inl rfl
    · have only : outcome = .error (.startTokensNotFound start) := failed
      rw [only]
      refine ⟨⟨?_, fun long => absurd long (Nat.not_lt_of_le fits)⟩,
        ⟨fun _ => ⟨unknown.1, fits, unknown.2⟩, fun _ => ⟨_, rfl⟩⟩, ?_⟩
      · rintro ⟨_, _, ⟨⟩⟩
      · rintro _ ⟨⟩
        exact .inr (.inl rfl)
    · refine ⟨⟨?_, fun long => absurd long (Nat.not_lt_of_le fits)⟩, ⟨?_, ?_⟩, fun e failed => ?_⟩
      · rintro ⟨_, _, failed⟩
        cases errors _ failed
      · rintro ⟨_, failed⟩
        cases errors _ failed
      · exact fun ⟨asked, _, missing⟩ => absurd ⟨asked, missing⟩ known
      · exact .inr (.inr (errors e failed))

theorem generateTokens_outcomes_of_bigrams :
    let m := trained 2 (by decide) .plain [.tokens ["the", "cat", "sat", "the", "dog", "sat"]]
    let r : Run := ⟨⟨[0, 0], 0⟩, []⟩
    let known : Options := { startTokens := some ["the"] }
    let unknown : Options := { startTokens := some ["zebra"] }
    0 < 3 ∧
      ((m.generateTokens 3 known r).1 = .ok ["the", "cat", "sat"] ∧
        ∃ rest, ["the", "cat", "sat"] = ["the"] ++ rest ∧ marker ∉ rest) ∧
      (m.search? ["zebra"] = none ∧
        ∃ tokens, (m.generateTokens 3 unknown r).1 = .error (.startTokensNotFound tokens)) := by
  intro m r known unknown
  have granted : (m.generateTokens 3 known r).1 = .ok ["the", "cat", "sat"] := rfl
  have none : m.search? ["zebra"] = none := rfl
  have ofKnown := (generateTokens_outcomes m 3 known r).1 _ granted
  have ofUnknown := (generateTokens_outcomes m 3 unknown r).2.2 (by decide)
  exact ⟨by decide, ⟨granted, ofKnown.2 (by decide)⟩, none,
    ofUnknown.2.1.mpr ⟨List.cons_ne_nil _ _, by decide, none⟩⟩

theorem not_all_begin_with_start :
    ¬ ∀ (n : Nat) (pos : 0 < n) (t : Tokenizer) (loads : List Load) (num : Nat) (o : Options)
      (r r' : Run) (out : List String),
      (trained n pos t loads).generateTokens num o r = (.ok out, r') →
      out.length = num ∧ ∃ rest, out = o.startTokens.getD [] ++ rest ∧ marker ∉ rest := by
  intro all
  obtain ⟨_, rest, same, _⟩ := all 2 (by decide) .plain [.tokens ["a", "b"]] 0
    { startTokens := some ["a"] } ⟨⟨[], 0⟩, []⟩ _ [] rfl
  cases same

end TextGen.Markov
