import Mathlib
import TextGen.Proofs.Markov.Ranking

/-! What completes a run of tokens.
Between two runs that are short enough together stand the words with which they make a window of a
batch. After a single run come the words that its probabilities mention, in the order of these. -/
namespace TextGen.Markov

namespace Trie

theorem mem_tokens_iff (trie : Trie) (proper : trie.Proper) (token : String) :
    token ∈ trie.words.map (·.1) ↔ token ≠ marker ∧ (trie.child? token).isSome := by
  rw [List.mem_map, Prod.exists]
  simp only [words, List.mem_filter, mem_entries_iff trie proper, count?_singleton,
    decide_eq_true_eq, Option.map_eq_some_iff, Option.isSome_iff_exists]
  constructor
  · rintro ⟨_, count, ⟨⟨node, found, _⟩, other⟩, rfl⟩
    exact ⟨other, node, found⟩
  · rintro ⟨other, node, found⟩
    exact ⟨token, node.1, ⟨⟨node, found, rfl⟩, other⟩, rfl⟩

theorem exists_of_walk? (trie : Trie) (pre post : List String) (token : String)
    (h : (trie.walk? (pre ++ token :: post)).isSome) :
    ∃ below, trie.walk? pre = some below ∧ (below.child? token).isSome := by
  rw [isSome_walk? _ (by simp), count?_append _ _ (List.cons_ne_nil _ _),
    Option.isSome_bind, Option.any_eq_true] at h
  obtain ⟨below, found, path⟩ := h
  obtain ⟨node, next, _⟩ := (isSome_count?_cons token post below).mp path
  exact ⟨below, found, by rw [next, Option.isSome_some]⟩

end Trie

/-- One share stands before another one in a ranking: it is larger, or it is as large and its token
comes first as a text. -/
def RanksBefore (a b : String × Ratio) : Prop :=
  b.2.exact < a.2.exact ∨ b.2.exact = a.2.exact ∧ a.1 < b.1

theorem ranksBefore_of_counts {a b : String × Ratio} (same : a.2.total = b.2.total)
    (some_ : a.2.total ≠ 0) (h : b.2.count ≤ a.2.count ∧ (a.2.count ≤ b.2.count → a.1 < b.1)) :
    RanksBefore a b := by
  have positive : (0 : ℚ) < a.2.total := Nat.cast_pos.mpr (Nat.pos_of_ne_zero some_)
  rw [RanksBefore, Ratio.exact, Ratio.exact, ← same]
  rcases Nat.lt_or_ge b.2.count a.2.count with less | equal
  · exact .inl (div_lt_div_of_pos_right (Nat.cast_lt.mpr less) positive)
  · rw [Nat.le_antisymm h.1 equal]
    exact .inr ⟨rfl, h.2 equal⟩

variable (n : Nat) (pos : 0 < n) (t : Tokenizer) (loads : List Load)

theorem exists_ranking (path : List String) :
    let m := trained n pos t loads
    ∃ ranked : List (String × Ratio), m.continuations path = ranked.map (·.1) ∧
      ranked.Perm (m.probabilities path) ∧ ranked.Pairwise RanksBefore ∧
      (m.continuations path).Nodup := by
  intro m
  obtain ⟨below, proper, counts, (looked : m.probabilities path = _)⟩ :=
    exists_shares n pos t loads path
  let ranked := (m.probabilities path).mergeSort fun a b => b.2.count ≤ a.2.count
  have perm : ranked.Perm (m.probabilities path) := List.mergeSort_perm _ _
  have ascending : (m.probabilities path).Pairwise (·.1 < ·.1) := by
    rw [looked]
    exact below.pairwise_sorted_shares proper
  have totals : ∀ a ∈ ranked, a.2.total = below.total ∧ below.total ≠ 0 := by
    intro a mem
    rw [perm.mem_iff, looked, (List.mergeSort_perm _ _).mem_iff] at mem
    refine ⟨?_, below.total_ne_zero proper counts (List.ne_nil_of_mem mem)⟩
    obtain ⟨_, _, rfl⟩ := List.mem_map.mp mem
    rfl
  refine ⟨ranked, rfl, perm, ?_, ?_⟩
  · have stable := pairwise_mergeSort_of_pairwise
      (fun a b : String × Ratio => b.2.count ≤ a.2.count) ascending
    refine stable.imp_of_mem fun {a b} first second ordered => ?_
    obtain ⟨ofFirst, some_⟩ := totals a first
    exact ranksBefore_of_counts (ofFirst.trans (totals b second).1.symm) (ofFirst ▸ some_) ordered
  · have tokens : ((m.probabilities path).map (·.1)).Nodup :=
      List.nodup_iff_pairwise_ne.mpr (List.pairwise_map.mpr (ascending.imp ne_of_lt))
    exact (perm.map _).nodup_iff.mpr tokens

theorem exists_between (pre post : List String) (short : pre.length + post.length < n) :
    ∃ found, (trained n pos t loads).between pre post = .ok found ∧ found.Nodup ∧
      ∀ token, token ∈ found ↔
        token ≠ marker ∧ ∃ batch ∈ batches t loads, pre ++ token :: post <:+: batch := by
  let m := trained n pos t loads
  have window : ∀ token, (m.trie.walk? (pre ++ token :: post)).isSome ↔
      ∃ batch ∈ batches t loads, pre ++ token :: post <:+: batch := by
    intro token
    have nonempty : pre ++ token :: post ≠ [] := by simp
    have fits : (pre ++ token :: post).length ≤ n := by
      simp only [List.length_append, List.length_cons]
      omega
    rw [Trie.isSome_walk? _ nonempty, isSome_count?_trained, IsWindow]
    exact ⟨fun h => h.2.2, fun h => ⟨nonempty, fits, h⟩⟩
  rw [between, order_trained, if_neg (Nat.not_le_of_lt short)]
  cases walked : m.trie.walk? pre with
  | none =>
    refine ⟨[], rfl, List.nodup_nil, fun token => ?_⟩
    rw [← window]
    constructor
    · intro mem
      cases mem
    · rintro ⟨_, stands⟩
      obtain ⟨below, found, _⟩ := m.trie.exists_of_walk? pre post token stands
      cases walked.symm.trans found
  | some below =>
    have proper := (Trie.proper_walk? pre _ (proper_trained n pos t loads) below walked).1
    refine ⟨_, rfl, (below.nodup_words proper).filter _, fun token => ?_⟩
    rw [List.mem_filter, below.mem_tokens_iff proper, ← window]
    constructor
    · exact fun h => ⟨h.1.1, h.2⟩
    · rintro ⟨other, stands⟩
      obtain ⟨_, found, next⟩ := m.trie.exists_of_walk? pre post token stands
      cases walked.symm.trans found
      exact ⟨⟨other, next⟩, stands⟩

/-- Two runs that are as long as the order together are refused. Between shorter ones are found,
each once, exactly the words with which they make a run of a batch. After one run are found, each
once, exactly the words that its probabilities mention, the most probable first, and of equally
probable ones the one that comes first as a text. -/
theorem completions_found_and_ranked (n : Nat) (pos : 0 < n) (t : Tokenizer) (loads : List Load)
    (pre : List String) :
    let m := trained n pos t loads
    (∀ post, let length := pre.length + post.length
      (m.between pre post = .error (.contextTooLong n length) ↔ n ≤ length) ∧
        (length < n → ∃ found, m.between pre post = .ok found ∧ found.Nodup ∧
          ∀ token, token ∈ found ↔
            token ≠ marker ∧ ∃ batch ∈ batches t loads, pre ++ token :: post <:+: batch)) ∧
      ∃ ranked : List (String × Ratio), m.continuations pre = ranked.map (·.1) ∧
        ranked.Perm (m.probabilities pre) ∧ ranked.Pairwise RanksBefore ∧
        (m.continuations pre).Nodup := by
  intro m
  refine ⟨fun post => ⟨⟨fun refused => ?_, fun long => ?_⟩,
    exists_between n pos t loads pre post⟩, exists_ranking n pos t loads pre⟩
  · by_contra short
    obtain ⟨found, answered, _⟩ :=
      exists_between n pos t loads pre post (Nat.lt_of_not_le short)
    cases answered.symm.trans refused
  · simp only [m, between, order_trained, if_pos long]

theorem completions_found_and_ranked_of_two_loads :
    let loads : List Load :=
      [.tokens ["the", "cat", "sat", "the", "dog", "sat"], .tokens ["the", "cat", "ran"]]
    let m := trained 3 (by decide) .plain loads
    0 < 3 ∧ ["the"].length + ["ran"].length < 3 ∧
      (∃ found, m.between ["the"] ["sat"] = .ok found ∧ "cat" ∈ found ∧ "dog" ∈ found) ∧
      (∃ found, m.between ["the"] ["ran"] = .ok found ∧ "cat" ∈ found ∧ "dog" ∉ found) ∧
      m.between ["the"] ["cat", "ran"] = .error (.contextTooLong 3 3) ∧
      ∃ ranked : List (String × Ratio), m.continuations ["the"] = ranked.map (·.1) ∧
        ranked.Perm (m.probabilities ["the"]) ∧ ranked.Pairwise RanksBefore := by
  intro loads m
  obtain ⟨refused, ranked, names, perm, ordered, _⟩ :=
    completions_found_and_ranked 3 (by decide) .plain loads ["the"]
  obtain ⟨sat, foundSat, _, inSat⟩ := (refused ["sat"]).2 (by decide)
  obtain ⟨ran, foundRan, _, inRan⟩ := (refused ["ran"]).2 (by decide)
  refine ⟨by decide, by decide, ⟨sat, foundSat, ?_, ?_⟩, ⟨ran, foundRan, ?_, ?_⟩,
    (refused ["cat", "ran"]).1.mpr (by decide), ranked, names, perm, ordered⟩
  · exact (inSat "cat").mpr ⟨by decide, by decide⟩
  · exact (inSat "dog").mpr ⟨by decide, by decide⟩
  · exact (inRan "cat").mpr ⟨by decide, by decide⟩
  · intro mem
    exact absurd ((inRan "dog").mp mem).2 (by decide)

end TextGen.Markov
