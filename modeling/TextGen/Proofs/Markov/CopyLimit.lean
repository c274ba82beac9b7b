import Mathlib
import TextGen.Proofs.Markov.Attested
import TextGen.Proofs.Markov.Seeds

/-! A limit on copies below the order.
Every run of at most `n` generated tokens stands in the input, and a limit of `k` refuses each token
that ends such a run of `k + 1`. So below the order the limit decides by the number of tokens alone:
it is not noticed up to `k` tokens, and no more than these can be generated. -/
namespace TextGen.Markov

variable {m : Markov} {o : Options} {k : Nat}

/- Fewer tokens than the limit. -/

theorem copied?_of_short (history : List String) (token : String) (short : history.length < k) :
    m.copied? history (some k) token = none :=
  if_neg (Nat.not_le_of_lt short)

theorem choose_congr (history : List String) {limit other : Option Nat}
    (same : ∀ token, m.copied? history limit token = m.copied? history other token)
    (choices : Nat) (trie : Trie) (r : Run) :
    m.choose history limit choices trie r = m.choose history other choices trie r := by
  induction choices generalizing trie r with
  | zero => rfl
  | succ choices ih =>
    rw [choose, choose]
    cases r.draw trie.pick with
    | mk pick r₁ =>
      cases pick with
      | none => rfl
      | some p => simp only [same, ih]

theorem extend?_of_short (tokens : List String) (short : tokens.length < k) (r : Run) :
    m.extend? (some k) tokens r = m.extend? none tokens r := by
  rw [extend?, extend?]
  cases m.search? tokens with
  | none => rfl
  | some trie =>
    exact choose_congr tokens (fun token => copied?_of_short tokens token short) _ trie r

theorem fill_of_short (missing : Nat) (tokens : List String) (short : tokens.length + missing ≤ k)
    (r : Run) : m.fill (some k) missing tokens r = m.fill none missing tokens r := by
  induction missing generalizing tokens r with
  | zero => rfl
  | succ missing ih =>
    rw [fill, fill, extend?_of_short tokens (by omega)]
    cases m.extend? none tokens r with
    | mk token r₁ =>
      cases token with
      | none => rfl
      | some token =>
        apply ih
        rw [List.length_append, List.length_singleton]
        omega

def Options.unlimited (o : Options) : Options := { o with maxLengthMatch := none }

theorem tokensFrom_of_short (limited : o.maxLengthMatch = some k) {num : Nat} (short : num ≤ k)
    (first : m.HoldsAtStart o (·.length ≤ num) m.trie) (left : Nat) (out : List String)
    (r r' : Run) :
    m.tokensFrom num o left r = (.ok out, r') ↔
      m.tokensFrom num o.unlimited left r = (.ok out, r') := by
  induction left generalizing r with
  | zero =>
    constructor
    · rintro ⟨⟩
    · rintro ⟨⟩
  | succ left ih =>
    have begun : m.startTokens o.unlimited m.trie r = m.startTokens o m.trie r := rfl
    rw [tokensFrom, tokensFrom, begun]
    cases started : m.startTokens o m.trie r with
    | mk outcome r₁ =>
      cases outcome with
      | error e =>
        constructor
        · rintro ⟨⟩
        · rintro ⟨⟩
      | ok start =>
        have fits := first start r r₁ started
        have filled : m.fill o.maxLengthMatch (num - start.length) start r₁ =
            m.fill o.unlimited.maxLengthMatch (num - start.length) start r₁ := by
          rw [limited]
          exact fill_of_short _ start (by omega) r₁
        simp only [filled]
        cases m.fill o.unlimited.maxLengthMatch (num - start.length) start r₁ with
        | mk tokens r₂ =>
          cases tokens with
          | none => exact ih r₂
          | some tokens => exact Iff.rfl

theorem generateTokens_of_short (limited : o.maxLengthMatch = some k) {num : Nat} (short : num ≤ k)
    (out : List String) (r r' : Run) :
    m.generateTokens num o r = (.ok out, r') ↔
      m.generateTokens num o.unlimited r = (.ok out, r') := by
  have start : (o.unlimited.startTokens.getD []).length = (o.startTokens.getD []).length := rfl
  rw [generateTokens, generateTokens, start]
  split
  · exact Iff.rfl
  · rename_i some_
    split
    · exact Iff.rfl
    · rename_i fits
      exact tokensFrom_of_short limited short
        (length_start_le (Nat.pos_of_ne_zero some_) (Nat.le_of_not_lt fits) m.trie) _ out r r'

/- More tokens than the limit. -/

section

variable {n : Nat} (pos : 0 < n) {t : Tokenizer} {loads : List Load}

theorem faithful_of_extend? (clean : ∀ ts, Load.tokens ts ∈ loads → marker ∉ ts)
    {limit : Option Nat} {tokens : List String} {token : String} {r r' : Run}
    (before : Faithful (trained n pos t loads) tokens)
    (extended : (trained n pos t loads).extend? limit tokens r = (some token, r')) :
    Faithful (trained n pos t loads) (tokens ++ [token]) := by
  obtain ⟨other, markers, known⟩ := leads_of_extend? (trained n pos t loads) limit
    (proper_trained n pos t loads) tokens r r' token extended
  rw [order_trained] at known
  exact faithful_append_singleton pos clean tokens token markers other before known

theorem faithful_of_startTokens (clean : ∀ ts, Load.tokens ts ∈ loads → marker ∉ ts)
    (free : o.startTokens.getD [] = []) :
    (trained n pos t loads).HoldsAtStart o
      (fun tokens => Faithful (trained n pos t loads) tokens ∧ tokens.length ≤ 1)
      (trained n pos t loads).trie := by
  intro start r r' begun
  have empty : Faithful (trained n pos t loads) [] := ⟨List.not_mem_nil, attested_nil _ _⟩
  rcases startTokens_eq_ok begun with ⟨asked, _⟩ | ⟨_, rfl | ⟨p, s, picked, rfl⟩⟩
  · exact absurd free asked
  · exact ⟨empty, Nat.zero_le 1⟩
  · obtain ⟨other, known⟩ :=
      Trie.leads_of_pick _ (proper_trained n pos t loads) r.source s p picked
    have context : lastItems (n - 1) ([] : List String) = [] := List.drop_nil
    refine ⟨faithful_append_singleton pos clean [] p.token p.markers other empty ?_, Nat.le_refl 1⟩
    rw [context]
    exact known

theorem kept_within_limit (clean : ∀ ts, Load.tokens ts ∈ loads → marker ∉ ts) (below : k < n) :
    (trained n pos t loads).KeptByExtension
      (fun tokens => Faithful (trained n pos t loads) tokens ∧ tokens.length ≤ k) (some k) := by
  rintro tokens token r r' ⟨before, _⟩ extended
  have next := faithful_of_extend? pos clean before extended
  refine ⟨next, ?_⟩
  by_contra beyond
  have enough : k ≤ tokens.length := by
    rw [List.length_append, List.length_singleton] at beyond
    omega
  have allowed := copied?_of_extend? _ _ tokens r r' token extended
  apply not_infix_of_copied? tokens token allowed enough
  apply next.2
  · rw [order_trained, lastItems, List.length_append, List.length_drop, List.length_singleton]
    omega
  · exact (List.suffix_concat_iff.mpr (.inr ⟨_, rfl, List.drop_suffix _ tokens⟩)).isInfix

theorem length_le_limit (clean : ∀ ts, Load.tokens ts ∈ loads → marker ∉ ts) (some_ : 1 ≤ k)
    (below : k < n) (limited : o.maxLengthMatch = some k) (free : o.startTokens.getD [] = [])
    {num : Nat} {out : List String} {r r' : Run}
    (h : (trained n pos t loads).generateTokens num o r = (.ok out, r')) : out.length ≤ k := by
  have first : (trained n pos t loads).HoldsAtStart o
      (fun tokens => Faithful (trained n pos t loads) tokens ∧ tokens.length ≤ k)
      (trained n pos t loads).trie := by
    intro start r₀ r₁ begun
    obtain ⟨faithful, one⟩ := faithful_of_startTokens pos clean free start r₀ r₁ begun
    exact ⟨faithful, one.trans some_⟩
  refine (of_generateTokens ?_ first ?_ num out r r' h).2
  · rw [limited]
    exact kept_within_limit pos clean below
  · exact ⟨⟨List.not_mem_nil, attested_nil _ _⟩, Nat.zero_le k⟩

end

/-- Under a limit of `k` below the order and without tokens to begin with, more than `k` tokens are
never generated, whatever the source is. Up to `k` tokens are generated as without a limit. -/
theorem generateTokens_below_order (n : Nat) (pos : 0 < n) (t : Tokenizer) (loads : List Load)
    (clean : ∀ ts, Load.tokens ts ∈ loads → marker ∉ ts) (k : Nat) (some_ : 1 ≤ k) (below : k < n)
    (o : Options) (limited : o.maxLengthMatch = some k) (free : o.startTokens.getD [] = [])
    (num : Nat) (r : Run) :
    let m := trained n pos t loads
    (k < num → ∀ out, (m.generateTokens num o r).1 ≠ .ok out) ∧
      (num ≤ k → ∀ out r', m.generateTokens num o r = (.ok out, r') ↔
        m.generateTokens num o.unlimited r = (.ok out, r')) := by
  intro m
  constructor
  · intro more out returned
    have generated : m.generateTokens num o r = (.ok out, (m.generateTokens num o r).2) :=
      Prod.ext returned rfl
    have length : out.length = num := length_of_generateTokens num out r _ generated
    have short := length_le_limit pos clean some_ below limited free generated
    omega
  · exact fun short out r' => generateTokens_of_short limited short out r r'

theorem generateTokens_below_order_of_sentences :
    let loads : List Load := [.text "The cat sat. The dog sat.", .tokens ["the", "cat", "ran"]]
    let m := trained 3 (by decide) .plain loads
    let o : Options := { maxLengthMatch := some 2 }
    let r : Run := ⟨⟨[0, 0, 0], 0⟩, []⟩
    (∀ ts, Load.tokens ts ∈ loads → marker ∉ ts) ∧ 1 ≤ 2 ∧ 2 < 3 ∧
      o.maxLengthMatch = some 2 ∧ o.startTokens.getD [] = [] ∧
      (∀ r out, (m.generateTokens 3 o r).1 ≠ .ok out) ∧
      m.generateTokens 2 o r = (.ok ["The", "cat"], ⟨⟨[], 0⟩, []⟩) := by
  intro loads m o r
  have clean : ∀ ts, Load.tokens ts ∈ loads → marker ∉ ts := by
    intro ts mem
    have only : ts = ["the", "cat", "ran"] := by simpa [loads] using mem
    rw [only]
    decide
  have limit := generateTokens_below_order 3 (by decide) .plain loads clean 2 (by decide)
    (by decide) o rfl rfl
  refine ⟨clean, by decide, by decide, rfl, rfl, fun r => (limit 3 r).1 (by decide), ?_⟩
  apply ((limit 2 r).2 (Nat.le_refl 2) _ _).mpr
  decide +kernel

end TextGen.Markov
