import Mathlib
import TextGen.Proofs.Markov.Choosing
import TextGen.Proofs.Random.Counted

/-! Every token below markers can be picked.
Some words of the source lead a pick to any token that is not the marker and that is reached through
markers only, if the counts are not too large for the choice of a branch. -/
namespace TextGen.Markov

open Source (fractionSteps)

namespace Trie

theorem sum_counts (trie : Trie) : trie.counts.sum = trie.passes := by
  induction trie with
  | empty => rfl
  | branch _ _ _ beside _ ih =>
    rw [counts] at ih
    simp only [counts, entries, List.map_cons, List.sum_cons, passes, ih]

theorem pos_of_child? (trie : Trie) (proper : trie.Proper) (token : String) (node : Nat × Trie)
    (h : trie.child? token = some node) : 0 < node.1 := by
  induction proper with
  | empty => cases h
  | branch _ passed _ _ _ _ ih =>
    rw [child?_branch] at h
    split at h
    · cases h
      exact passed
    · exact ih h

theorem exists_index_of_child? (trie : Trie) (token : String) (count : Nat) (below : Trie)
    (h : trie.child? token = some (count, below)) :
    ∃ i, trie.counts[i]? = some count ∧
      ∀ s, trie.settle i s = (branch token count below .empty).settle 0 s := by
  induction trie with
  | empty => cases h
  | branch t c inside beside _ ih =>
    rw [child?_branch] at h
    split at h
    · rename_i same
      cases h
      subst same
      exact ⟨0, rfl, fun s => rfl⟩
    · obtain ⟨i, counted, settled⟩ := ih h
      exact ⟨i + 1, counted, settled⟩

theorem settle_word (token : String) (other : token ≠ marker) (count : Nat) (below beside : Trie)
    (s : Source) : (branch token count below beside).settle 0 s = (some ⟨token, 0⟩, s) := by
  rw [settle, if_neg other]

theorem settle_marker (count : Nat) (below beside : Trie) (s s' : Source) (p : Pick)
    (h : below.pick s = (some p, s')) :
    (branch marker count below beside).settle 0 s =
      (some { p with markers := p.markers + 1 }, s') := by
  rw [settle, if_pos rfl]
  rw [pick] at h
  split at h
  · cases h
  · simp only [h, Option.map_some]

theorem pick_single (token : String) (count : Nat) (counted : 0 < count) (below : Trie)
    (s : Source) :
    (branch token count below .empty).pick s =
      (branch token count below .empty).settle 0 s.next.2 := by
  have first := Source.countedIndex?_singleton count counted s
  simp only [pick, counts, entries, List.map_cons, List.map_nil, first]

theorem exists_word_into (trie : Trie) (proper : trie.Proper)
    (small : 2 * trie.passes ≤ fractionSteps) (token : String) (count : Nat) (below : Trie)
    (h : trie.child? token = some (count, below)) :
    ∃ w, ∀ queue state, trie.pick ⟨w :: queue, state⟩ =
      (branch token count below .empty).settle 0 ⟨queue, state⟩ := by
  obtain ⟨i, counted, settled⟩ := exists_index_of_child? trie token count below h
  have positive := pos_of_child? trie proper token (count, below) h
  rw [← sum_counts] at small
  obtain ⟨w, reaches⟩ := Source.countedIndex?_reaches trie.counts i count counted positive small
  refine ⟨w, fun queue state => ?_⟩
  rw [pick, reaches]
  exact settled ⟨queue, state⟩

theorem exists_words_to (markers : Nat) (token : String) (trie : Trie) (proper : trie.Proper)
    (small : 2 * trie.passes ≤ fractionSteps) (h : trie.Leads ⟨token, markers⟩) :
    ∃ words, ∀ queue state, trie.pick ⟨words ++ queue, state⟩ =
      (some ⟨token, markers⟩, ⟨queue, state⟩) := by
  induction markers generalizing trie with
  | zero =>
    obtain ⟨⟨count, below⟩, found, _⟩ := (isSome_count?_cons token [] trie).mp h.2
    obtain ⟨w, into⟩ := exists_word_into trie proper small token count below found
    refine ⟨[w], fun queue state => ?_⟩
    rw [List.singleton_append, into, settle_word token h.1]
  | succ markers ih =>
    have path := h.2
    rw [List.replicate_succ, List.cons_append, isSome_count?_cons] at path
    obtain ⟨⟨count, below⟩, found, deeper⟩ := path
    have inside := proper_child? trie proper marker count below found
    have leads : below.Leads ⟨token, markers⟩ :=
      ⟨h.1, deeper.resolve_left (List.append_ne_nil_of_right_ne_nil _ (List.cons_ne_nil _ _))⟩
    have fewer : 2 * below.passes ≤ fractionSteps := by
      have less := inside.2
      omega
    obtain ⟨words, onward⟩ := ih below inside.1 fewer leads
    obtain ⟨w, into⟩ := exists_word_into trie proper small marker count below found
    refine ⟨w :: words, fun queue state => ?_⟩
    rw [List.cons_append, into]
    exact settle_marker count below .empty _ _ _ (onward queue state)

end Trie

end TextGen.Markov
