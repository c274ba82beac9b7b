import Mathlib
import TextGen.Proofs.Markov.Completions

/-! The order of training.
Trees that count every path alike differ in the order of their branches only, and no answer to a
query shows this order but that of the words between two runs. The counts after several loads are
sums over the batches, so they are the same in whatever order these were loaded. -/
namespace TextGen.Markov

namespace Trie

/-- Trees that insertions can build and in which every path has the same count. -/
structure Alike (a b : Trie) : Prop where
  first : a.Proper
  second : b.Proper
  counts : ∀ w, a.count? w = b.count? w

variable {a b : Trie}

/- What stands at the top of the trees. -/

theorem Alike.perm_words (same : a.Alike b) : a.words.Perm b.words := by
  apply List.Perm.filter
  apply (List.perm_ext_iff_of_nodup (.of_map _ (nodup_entries a same.first))
    (.of_map _ (nodup_entries b same.second))).mpr
  rintro ⟨token, count⟩
  rw [mem_entries_iff a same.first, mem_entries_iff b same.second, same.counts]

theorem Alike.total_eq (same : a.Alike b) : a.total = b.total := by
  simp only [total_eq_sum]
  exact (same.perm_words.map _).sum_eq

theorem Alike.sorted_shares_eq (same : a.Alike b) :
    (a.shares.mergeSort fun x y => x.1 ≤ y.1) = b.shares.mergeSort fun x y => x.1 ≤ y.1 := by
  have shares : a.shares.Perm b.shares := by
    simp only [Trie.shares, same.total_eq]
    exact same.perm_words.map _
  -- sorted shares ascend strictly, and a list can be put in such an order in one way only
  apply List.Perm.eq_of_pairwise _ (a.pairwise_sorted_shares same.first)
    (b.pairwise_sorted_shares same.second)
  · exact (List.mergeSort_perm _ _).trans (shares.trans (List.mergeSort_perm _ _).symm)
  · intro x y _ _ less more
    exact absurd more less.asymm

/- What stands below a path. -/

theorem Alike.walk? (same : a.Alike b) (path : List String) :
    (a.walk? path = none ∧ b.walk? path = none) ∨
      ∃ below other, a.walk? path = some below ∧ b.walk? path = some other ∧ below.Alike other := by
  by_cases empty : path = []
  · subst empty
    exact .inr ⟨a, b, rfl, rfl, same⟩
  have known : (a.walk? path).isSome = (b.walk? path).isSome := by
    simp only [isSome_walk? path empty, same.counts]
  cases inFirst : a.walk? path with
  | none =>
    rw [inFirst] at known
    exact .inl ⟨rfl, Option.not_isSome_iff_eq_none.mp (by simp [← known])⟩
  | some below =>
    rw [inFirst] at known
    obtain ⟨other, inSecond⟩ := Option.isSome_iff_exists.mp known.symm
    have first := (proper_walk? path a same.first below inFirst).1
    have second := (proper_walk? path b same.second other inSecond).1
    refine .inr ⟨below, other, rfl, inSecond, first, second, fun w => ?_⟩
    by_cases none : w = []
    · subst none
      rfl
    · calc below.count? w
          = a.count? (path ++ w) := by simp only [count?_append path w none, inFirst, Option.bind]
        _ = b.count? (path ++ w) := same.counts _
        _ = other.count? w := by simp only [count?_append path w none, inSecond, Option.bind]

theorem Alike.isSome_walk?_eq (same : a.Alike b) (path : List String) :
    (a.walk? path).isSome = (b.walk? path).isSome := by
  rcases same.walk? path with ⟨first, second⟩ | ⟨_, _, first, second, _⟩
  · rw [first, second]
  · rw [first, second, Option.isSome_some, Option.isSome_some]

theorem Alike.totalBelow_eq (same : a.Alike b) (path : List String) :
    a.totalBelow path = b.totalBelow path := by
  rcases same.walk? path with ⟨first, second⟩ | ⟨below, other, first, second, alike⟩
  · simp only [totalBelow, first, second]
  · simp only [totalBelow, first, second, Option.map_some, alike.total_eq]

theorem Alike.share?_eq (same : a.Alike b) (path : List String) :
    a.share? path = b.share? path := by
  rcases List.eq_nil_or_concat' path with rfl | ⟨before, token, rfl⟩
  · rfl
  · simp only [share?_append, same.counts, same.totalBelow_eq]

end Trie

/- What models answer. -/

/-- The models answer every query alike. The words between two runs may come in another order, but
each of them comes once. -/
structure AnswerAlike (a b : Markov) : Prop where
  size : a.size = b.size
  probability : ∀ path, a.probability path = b.probability path
  probabilities : ∀ path, a.probabilities path = b.probabilities path
  continuations : ∀ path, a.continuations path = b.continuations path
  between : ∀ pre post, (∃ e, a.between pre post = .error e ∧ b.between pre post = .error e) ∨
    ∃ found others, a.between pre post = .ok found ∧ b.between pre post = .ok others ∧
      found.Nodup ∧ found.Perm others

section

variable {a b : Markov}

theorem probabilities_eq_of_alike (order : a.order = b.order) (same : a.trie.Alike b.trie)
    (path : List String) : a.probabilities path = b.probabilities path := by
  rcases same.walk? (lastItems (a.order - 1) path) with
    ⟨first, second⟩ | ⟨below, other, first, second, alike⟩
  · simp only [probabilities, search?, ← order, first, second]
  · simp only [probabilities, search?, ← order, first, second, alike.sorted_shares_eq]

theorem between_eq_ok {m : Markov} {pre post : List String} {below : Trie}
    (short : pre.length + post.length < m.order) (walked : m.trie.walk? pre = some below) :
    m.between pre post = .ok ((below.words.map (·.1)).filter fun token =>
      (m.trie.walk? (pre ++ token :: post)).isSome) := by
  simp only [between, if_neg (Nat.not_le_of_lt short), walked]

theorem between_of_alike (order : a.order = b.order) (same : a.trie.Alike b.trie)
    (pre post : List String) (short : pre.length + post.length < a.order) :
    ∃ found others, a.between pre post = .ok found ∧ b.between pre post = .ok others ∧
      found.Nodup ∧ found.Perm others := by
  rcases same.walk? pre with ⟨first, second⟩ | ⟨below, other, first, second, alike⟩
  · have fits : ¬ a.order ≤ pre.length + post.length := Nat.not_le_of_lt short
    refine ⟨[], [], ?_, ?_, List.nodup_nil, List.Perm.nil⟩
    · simp only [between, if_neg fits, first]
    · simp only [between, ← order, if_neg fits, second]
  · refine ⟨_, _, between_eq_ok short first, between_eq_ok (order ▸ short) second, ?_, ?_⟩
    · exact (below.nodup_words alike.first).filter _
    · simp only [same.isSome_walk?_eq]
      exact (alike.perm_words.map _).filter _

theorem answerAlike_of_alike (order : a.order = b.order) (same : a.trie.Alike b.trie) :
    AnswerAlike a b where
  size := same.total_eq
  probability path := by simp only [probability, order, same.share?_eq]
  probabilities := probabilities_eq_of_alike order same
  continuations path := by simp only [continuations, probabilities_eq_of_alike order same]
  between pre post := by
    rcases Nat.lt_or_ge (pre.length + post.length) a.order with short | long
    · exact .inr (between_of_alike order same pre post short)
    · refine .inl ⟨.contextTooLong a.order (pre.length + post.length), ?_, ?_⟩
      · simp only [between, if_pos long]
      · simp only [between, ← order, if_pos long]

end

/- Trained models. -/

theorem places_eq_of_perm {batches others : List (List String)} (perm : batches.Perm others)
    (w : List String) : places w batches = places w others :=
  (perm.map (placesIn w)).sum_eq

theorem alike_trained_of_perm (n : Nat) (pos : 0 < n) (t : Tokenizer) {loads others : List Load}
    (perm : loads.Perm others) :
    (trained n pos t loads).trie.Alike (trained n pos t others).trie where
  first := proper_trained n pos t loads
  second := proper_trained n pos t others
  counts w := by
    by_cases empty : w = []
    · subst empty
      rfl
    · have batches : (batches t loads).Perm (batches t others) := perm.map (Load.batch t)
      simp only [counts_trained n pos t _ w empty, places_eq_of_perm batches]

/-- Models that were trained by the same loads answer every query alike, whatever the order of the
loads was. -/
theorem answerAlike_trained_of_perm (n : Nat) (pos : 0 < n) (t : Tokenizer)
    (loads others : List Load) (perm : loads.Perm others) :
    AnswerAlike (trained n pos t loads) (trained n pos t others) := by
  apply answerAlike_of_alike
  · simp only [order_trained]
  · exact alike_trained_of_perm n pos t perm

theorem answerAlike_trained_of_two_orders :
    let loads : List Load := [.text "The cat sat. The dog ran.", .tokens ["The", "dog", "sat"]]
    let m := trained 3 (by decide) .plain loads
    let other := trained 3 (by decide) .plain loads.reverse
    0 < 3 ∧ loads.Perm loads.reverse ∧ AnswerAlike m other ∧ m.trie ≠ other.trie ∧
      m.between ["The"] ["sat"] = .ok ["cat", "dog"] ∧
      other.between ["The"] ["sat"] = .ok ["dog", "cat"] := by
  intro loads m other
  have perm : loads.Perm loads.reverse := loads.reverse_perm.symm
  have alike := answerAlike_trained_of_perm 3 (by decide) .plain loads loads.reverse perm
  refine ⟨by decide, perm, alike, ?_, ?_, ?_⟩
  · decide +kernel
  · decide +kernel
  · decide +kernel

end TextGen.Markov
