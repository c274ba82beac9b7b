import Mathlib
import TextGen.Pattern.Matching
import TextGen.Proofs.Markov.Novel

/-! The limit on copies when generation goes on up to a token.
It begins with a seed of a fixed length, which is generated without the limit; only the tokens after
the seed are compared with the input. So the copies in the result are those that lie in the seed, and
there are none if the seed is no longer than the limit. -/
namespace TextGen.Markov

variable {m : Markov} {o : Options}

/- The number of tokens. -/

theorem length_of_fill {limit : Option Nat} (missing : Nat) (tokens out : List String) (r r' : Run)
    (h : m.fill limit missing tokens r = (some out, r')) :
    out.length = tokens.length + missing := by
  induction missing generalizing tokens r with
  | zero =>
    cases h
    rfl
  | succ missing ih =>
    rw [fill] at h
    split at h
    · cases h
    · rw [ih _ _ h, List.length_append, List.length_singleton]
      omega

theorem length_start_le {num : Nat} (some_ : 0 < num)
    (fits : (o.startTokens.getD []).length ≤ num) (trie : Trie) :
    m.HoldsAtStart o (·.length ≤ num) trie := by
  intro start r r' begun
  rcases startTokens_eq_ok begun with ⟨_, rfl⟩ | ⟨_, rfl | ⟨_, _, _, rfl⟩⟩
  · exact fits
  · exact Nat.zero_le num
  · exact some_

theorem length_of_tokensFrom {num : Nat} (start : m.HoldsAtStart o (·.length ≤ num) m.trie)
    (left : Nat) (out : List String) (r r' : Run)
    (h : m.tokensFrom num o left r = (.ok out, r')) : out.length = num := by
  induction left generalizing r with
  | zero => cases h
  | succ left ih =>
    rw [tokensFrom] at h
    split at h
    · cases h
    · rename_i first r₁ begun
      split at h
      · rename_i filled
        cases h
        have length := length_of_fill _ _ _ _ _ filled
        have short := start first r r₁ begun
        omega
      · exact ih _ h

theorem length_of_generateTokens (num : Nat) (out : List String) (r r' : Run)
    (h : m.generateTokens num o r = (.ok out, r')) : out.length = num := by
  rw [generateTokens] at h
  split at h
  · rename_i none
    cases h
    exact none.symm
  · rename_i some_
    split at h
    · cases h
    · rename_i fits
      have start := length_start_le (m := m) (Nat.pos_of_ne_zero some_) (Nat.le_of_not_lt fits)
      exact length_of_tokensFrom (start m.trie) _ _ _ _ h

/- The seed and what follows it. -/

def Options.seedLength (o : Options) : Nat :=
  max (max o.minLength 1) (o.startTokens.getD []).length

def Options.forSeed (o : Options) : Options := { startTokens := o.startTokens }

theorem prefix_of_fillUntil {limit : Option Nat} {test : String → Bool} {room : Nat}
    {seed out : List String} {r r' : Run}
    (h : m.fillUntil limit test room seed r = (some out, r')) : seed <+: out :=
  of_fillUntil (P := (seed <+: ·)) (fun _ _ _ _ before _ => before.trans (List.prefix_append _ _))
    test room seed out r r' List.prefix_rfl h

theorem untilFrom_eq_ok {test : String → Bool} {length left : Nat} {out : List String} {r r' : Run}
    (h : m.untilFrom test length o left r = (.ok out, r')) :
    ∃ seed r₀ r₁ r₂, m.generateTokens length o.forSeed r₀ = (.ok seed, r₁) ∧
      m.fillUntil o.maxLengthMatch test (o.maxLength - seed.length) seed r₁ = (some out, r₂) := by
  induction left generalizing r with
  | zero => cases h
  | succ left ih =>
    rw [untilFrom] at h
    split at h
    · cases h
    · rename_i seed r₁ seeded
      split at h
      · rename_i tokens r₂ filled
        cases h
        exact ⟨seed, r, r₁, r', seeded, filled⟩
      · exact ih h

theorem not_infix_iff_of_novel {input out : List String} {k n : Nat}
    (novel : Novel input k n out) :
    (∀ w, w.length = k + 1 → w <:+: out → ¬ w <:+: input) ↔
      ∀ w, w.length = k + 1 → w <:+: out.take n → ¬ w <:+: input := by
  constructor
  · intro all w long inside
    exact all w long (inside.trans (List.take_prefix n out).isInfix)
  · rintro seed w long ⟨front, back, rfl⟩
    by_cases behind : n ≤ front.length + k
    · have fresh := novel front.length behind (by simp only [List.length_append]; omega)
      rwa [List.append_assoc, List.drop_left, ← long, List.take_left] at fresh
    · have whole : (front ++ w).length ≤ n := by
        rw [List.length_append]
        omega
      refine seed w long ⟨front, back.take (n - (front ++ w).length), ?_⟩
      rw [List.take_append, List.take_of_length_le whole]

/-- The result begins with a seed that was generated without a limit. A run of `k + 1` tokens that
ends behind the seed does not stand in the input. So there is no copied run in the result exactly if
there is none in the seed, and that is so if the seed has at most `k` tokens. -/
theorem generateUntil_novel_iff (m : Markov) (test : String → Bool) (o : Options) (k : Nat)
    (limited : o.maxLengthMatch = some k) (r r' : Run) (out : List String)
    (generated : m.generateUntil test o r = (.ok out, r')) :
    (∃ r₀ r₁, m.generateTokens o.seedLength o.forSeed r₀ = (.ok (out.take o.seedLength), r₁)) ∧
      Novel m.input k o.seedLength out ∧
      ((∀ w, w.length = k + 1 → w <:+: out → ¬ w <:+: m.input) ↔
        ∀ w, w.length = k + 1 → w <:+: out.take o.seedLength → ¬ w <:+: m.input) ∧
      (o.seedLength ≤ k → ∀ w, w.length = k + 1 → w <:+: out → ¬ w <:+: m.input) := by
  obtain ⟨seed, r₀, r₁, r₂, seeded, filled⟩ := untilFrom_eq_ok generated
  have length : seed.length = o.seedLength := length_of_generateTokens _ _ _ _ seeded
  have first : out.take o.seedLength = seed := by
    obtain ⟨rest, rfl⟩ := prefix_of_fillUntil filled
    rw [← length, List.take_left]
  have novel : Novel m.input k o.seedLength out :=
    of_fillUntil (kept_novel limited) _ _ _ _ _ _ (novel_of_length_le (Nat.le_of_eq length)) filled
  have within := not_infix_iff_of_novel novel
  refine ⟨⟨r₀, r₁, by rw [first]; exact seeded⟩, novel, within, fun short => within.mpr ?_⟩
  intro w long inside
  have fits := inside.length_le
  rw [first, length] at fits
  omega

theorem generateUntil_novel_with_short_seed_not_with_long :
    let m := trained 1 (by decide) .plain [.tokens ["a", "b"]]
    let r : Run := ⟨⟨[0, 0x8000000000000000, 0, 0, 0], 0⟩, []⟩
    let o : Options := { minLength := 1, maxLengthMatch := some 1 }
    o.maxLengthMatch = some 1 ∧
      ((m.generateUntil (· = "a") o r).1 = .ok ["a", "a"] ∧
        ∀ w, w.length = 2 → w <:+: ["a", "a"] → ¬ w <:+: m.input) ∧
      ((m.generateUntil (· = "a") { o with minLength := 2 } r).1 = .ok ["a", "b", "a"] ∧
        Novel m.input 1 2 ["a", "b", "a"] ∧
        ¬ ∀ w, w.length = 2 → w <:+: ["a", "b", "a"] → ¬ w <:+: m.input) := by
  intro m r o
  have short : (m.generateUntil (· = "a") o r).1 = .ok ["a", "a"] := by decide +kernel
  have long : (m.generateUntil (· = "a") { o with minLength := 2 } r).1 = .ok ["a", "b", "a"] := by
    decide +kernel
  have ofShort := generateUntil_novel_iff m (· = "a") o 1 rfl r _ _ (Prod.ext short rfl)
  have ofLong :=
    generateUntil_novel_iff m (· = "a") { o with minLength := 2 } 1 rfl r _ _ (Prod.ext long rfl)
  refine ⟨rfl, ⟨short, ofShort.2.2.2 (by decide)⟩, long, ofLong.2.1, fun all => ?_⟩
  exact ofLong.2.2.1.mp all ["a", "b"] rfl (by decide +kernel) (by decide +kernel)

theorem generateUntil_copies_seed :
    ¬ ∀ (n : Nat) (pos : 0 < n) (t : Tokenizer) (loads : List Load) (o : Options) (k : Nat)
      (p : Pattern) (r r' : Run) (out : List String),
      o.maxLengthMatch = some k → 1 ≤ k → o.startTokens = none →
      (trained n pos t loads).generateUntil p.isMatch o r = (.ok out, r') →
      ∀ w, w.length = k + 1 → w <:+: out → ¬ w <:+: (trained n pos t loads).input := by
  intro all
  have copied : ((trained 1 (by decide) .plain [.tokens ["a", "b"]]).generateUntil
      (Pattern.literal ['a']).isMatch { minLength := 2, maxLengthMatch := some 1 }
      ⟨⟨[0, 0x8000000000000000, 0, 0], 0⟩, []⟩).1 = .ok ["a", "b", "a"] := by decide +kernel
  exact all 1 (by decide) .plain [.tokens ["a", "b"]] { minLength := 2, maxLengthMatch := some 1 } 1
    (.literal ['a']) _ _ _ rfl (Nat.le_refl 1) rfl (Prod.ext copied rfl) ["a", "b"] rfl
    (by decide +kernel) (by decide +kernel)

end TextGen.Markov
