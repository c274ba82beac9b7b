import Mathlib
import TextGen.Proofs.Markov.Shares

/-! Probabilities after a context.
The tokens that may come next are the words that stand behind the context somewhere in the batches,
and their counts are the numbers of places where they do. So their shares are these numbers over the
sum of all of them, and the shares of all words are 1 together. -/
namespace TextGen.Markov

namespace Trie

/- The top branches of a proper tree, each with its own token. -/

theorem mem_entries_iff (trie : Trie) (proper : trie.Proper) (token : String) (count : Nat) :
    (token, count) ∈ trie.entries ↔ trie.count? [token] = some count := by
  induction proper with
  | empty => simp [entries]
  | @branch t passed below beside new _ _ _ _ _ ih =>
    rw [count?_singleton] at ih
    rw [entries, List.mem_cons, ih, count?_singleton, child?_branch]
    by_cases same : t = token
    · subst same
      simp [new, eq_comm]
    · simp [same, Ne.symm same]

theorem nodup_entries (trie : Trie) (proper : trie.Proper) : (trie.entries.map (·.1)).Nodup := by
  induction proper with
  | empty => exact List.nodup_nil
  | @branch t passed below beside new _ _ _ properBeside _ ih =>
    refine List.nodup_cons.mpr ⟨fun mem => ?_, ih⟩
    obtain ⟨⟨token, count⟩, inside, rfl⟩ := List.mem_map.mp mem
    rw [mem_entries_iff beside properBeside, count?_singleton, new] at inside
    cases inside

theorem nodup_words (trie : Trie) (proper : trie.Proper) : (trie.words.map (·.1)).Nodup :=
  (nodup_entries trie proper).sublist (List.filter_sublist.map _)

theorem total_eq_sum (trie : Trie) : trie.total = (trie.words.map (·.2)).sum := by
  rw [total, List.sum_eq_foldl, List.foldl_map]

theorem le_total (trie : Trie) {token : String} {count : Nat} (mem : (token, count) ∈ trie.words) :
    count ≤ trie.total := by
  rw [total_eq_sum]
  exact List.single_le_sum (fun _ _ => Nat.zero_le _) count (List.mem_map_of_mem mem)

theorem pairwise_sorted_shares (trie : Trie) (proper : trie.Proper) :
    (trie.shares.mergeSort fun a b => a.1 ≤ b.1).Pairwise (·.1 < ·.1) := by
  have ordered := List.pairwise_mergeSort' (fun a b : String × Ratio => a.1 ≤ b.1) trie.shares
  have keys : trie.shares.map (·.1) = trie.words.map (·.1) := by
    rw [shares, List.map_map]
    rfl
  have distinct : (trie.shares.mergeSort fun a b => a.1 ≤ b.1).Pairwise (·.1 ≠ ·.1) := by
    refine List.pairwise_map.mp (((List.mergeSort_perm _ _).map _).nodup_iff.mpr ?_)
    rw [keys]
    exact nodup_words trie proper
  exact (ordered.and distinct).imp fun both => lt_of_le_of_ne both.1 both.2

theorem sum_shares (trie : Trie) (some_ : trie.total ≠ 0) :
    (trie.shares.map (·.2.exact)).sum = 1 := by
  have quotients : trie.shares.map (·.2.exact) =
      trie.words.map fun entry => (entry.2 : ℚ) * (trie.total : ℚ)⁻¹ := by
    rw [shares, List.map_map]
    exact List.map_congr_left fun entry _ => div_eq_mul_inv _ _
  have counts : (trie.words.map fun entry => (entry.2 : ℚ)).sum = trie.total := by
    rw [total_eq_sum, Nat.cast_list_sum, List.map_map]
    rfl
  rw [quotients, List.sum_map_mul_right, counts, mul_inv_cancel₀ (Nat.cast_ne_zero.mpr some_)]

section

variable (trie : Trie) (proper : trie.Proper) {f : List String → Nat} (counts : trie.Counts f)
include proper counts

theorem mem_words_iff (token : String) (count : Nat) :
    (token, count) ∈ trie.words ↔ token ≠ marker ∧ 0 < f [token] ∧ count = f [token] := by
  rw [words, List.mem_filter, mem_entries_iff trie proper, decide_eq_true_eq, and_comm,
    counts _ (List.cons_ne_nil _ _)]
  by_cases never : f [token] = 0
  · simp [never]
  · simp [never, Nat.pos_of_ne_zero never, eq_comm]

theorem total_eq_finsum : trie.total = ∑ᶠ (token : String) (_ : token ≠ marker), f [token] := by
  have words : ∀ token, f [token] ≠ 0 →
      (token ≠ marker ↔ token ∈ (trie.words.map (·.1)).toFinset) := by
    intro token stands
    simp [mem_words_iff trie proper counts, Nat.pos_of_ne_zero stands]
  have same : ∀ entry ∈ trie.words, entry.2 = f [entry.1] := fun entry mem =>
    ((mem_words_iff trie proper counts entry.1 entry.2).mp mem).2.2
  rw [finsum_cond_eq_sum_of_cond_iff _ (fun {token} => words token),
    List.sum_toFinset _ (nodup_words trie proper), List.map_map, total_eq_sum]
  exact congrArg List.sum (List.map_congr_left same)

theorem mem_shares_iff (token : String) (q : Ratio) :
    (token, q) ∈ trie.shares ↔ token ≠ marker ∧ 0 < f [token] ∧
      q = ⟨f [token], ∑ᶠ (token : String) (_ : token ≠ marker), f [token]⟩ := by
  rw [shares, List.mem_map, ← total_eq_finsum trie proper counts]
  constructor
  · rintro ⟨⟨word, count⟩, mem, same⟩
    cases same
    obtain ⟨other, stands, rfl⟩ := (mem_words_iff trie proper counts _ _).mp mem
    exact ⟨other, stands, rfl⟩
  · rintro ⟨other, stands, rfl⟩
    exact ⟨(token, f [token]), (mem_words_iff trie proper counts _ _).mpr ⟨other, stands, rfl⟩, rfl⟩

theorem total_ne_zero (some_ : trie.shares ≠ []) : trie.total ≠ 0 := by
  obtain ⟨share, mem⟩ := List.exists_mem_of_ne_nil _ some_
  obtain ⟨⟨token, count⟩, word, _⟩ := List.mem_map.mp mem
  obtain ⟨_, stands, rfl⟩ := (mem_words_iff trie proper counts token count).mp word
  exact (stands.trans_le (trie.le_total word)).ne'

end

end Trie

/- Contexts of trained models. -/

theorem length_lastItems_le {α : Type} (k : Nat) (items : List α) :
    (lastItems k items).length ≤ k := by
  rw [lastItems, List.length_drop]
  omega

variable (n : Nat) (pos : 0 < n) (t : Tokenizer) (loads : List Load)

/-- The probabilities after a path are the shares of a tree that counts what stands behind the
context. A context that was never seen has the empty tree. -/
theorem exists_shares (path : List String) :
    let context := lastItems (n - 1) path
    ∃ below : Trie, below.Proper ∧
      below.Counts (fun w =>
        if (context ++ w).length ≤ n then places (context ++ w) (batches t loads) else 0) ∧
      (trained n pos t loads).probabilities path =
        below.shares.mergeSort fun a b => a.1 ≤ b.1 := by
  intro context
  have counted : ∀ w, w ≠ [] →
      (((trained n pos t loads).trie.walk? context).bind fun below => below.count? w) = _ :=
    fun w nonempty => (Trie.count?_append context w nonempty _).symm.trans
      (counts_trained n pos t loads (context ++ w) (List.append_ne_nil_of_right_ne_nil _ nonempty))
  simp only [probabilities, search?, order_trained]
  cases found : (trained n pos t loads).trie.walk? context with
  | none =>
    simp only [found, Option.bind_none] at counted
    refine ⟨.empty, .empty, fun w nonempty => ?_, (List.mergeSort_nil).symm⟩
    rw [Trie.count?_empty]
    exact counted w nonempty
  | some below =>
    simp only [found, Option.bind_some] at counted
    have proper := (Trie.proper_walk? context _ (proper_trained n pos t loads) below found).1
    exact ⟨below, proper, counted, rfl⟩

/-- The probabilities after a path are given for the words that stand somewhere behind its last
`n - 1` tokens, each once and in ascending order: the number of places where the word does so over
the sum of these numbers for all words. They are 1 together, if there are any. -/
theorem probabilities_count_places (n : Nat) (pos : 0 < n) (t : Tokenizer) (loads : List Load)
    (path : List String) :
    let context := lastItems (n - 1) path
    let occurrences (token : String) : Nat := places (context ++ [token]) (batches t loads)
    let total := ∑ᶠ (token : String) (_ : token ≠ marker), occurrences token
    let shares := (trained n pos t loads).probabilities path
    shares.Pairwise (·.1 < ·.1) ∧
      (∀ token q, (token, q) ∈ shares ↔
        token ≠ marker ∧ 0 < occurrences token ∧ q = ⟨occurrences token, total⟩) ∧
      (∀ token q, (token, q) ∈ shares →
        q.toFloat = Float.ofNat (occurrences token) / Float.ofNat total) ∧
      (shares ≠ [] → (shares.map (·.2.exact)).sum = 1) := by
  intro context occurrences total shares
  obtain ⟨below, proper, counts, (looked : shares = _)⟩ := exists_shares n pos t loads path
  have short : ∀ token, (context ++ [token]).length ≤ n := by
    intro token
    have length : context.length ≤ n - 1 := length_lastItems_le (n - 1) path
    rw [List.length_append, List.length_singleton]
    omega
  have ascending : shares.Pairwise (·.1 < ·.1) := by
    rw [looked]
    exact below.pairwise_sorted_shares proper
  have sorted : shares.Perm below.shares := by
    rw [looked]
    exact List.mergeSort_perm _ _
  have whole : below.total = total := by
    rw [Trie.total_eq_finsum below proper counts]
    exact finsum_congr fun token => finsum_congr fun _ => if_pos (short token)
  have members : ∀ token q, (token, q) ∈ shares ↔
      token ≠ marker ∧ 0 < occurrences token ∧ q = ⟨occurrences token, total⟩ := by
    intro token q
    rw [sorted.mem_iff, Trie.mem_shares_iff below proper counts, ← whole,
      Trie.total_eq_finsum below proper counts, if_pos (short token)]
  have positive : shares ≠ [] → below.total ≠ 0 := fun some_ =>
    below.total_ne_zero proper counts fun none => some_ (none ▸ sorted).eq_nil
  refine ⟨ascending, members, fun token q mem => ?_, fun some_ => ?_⟩
  · obtain ⟨_, _, rfl⟩ := (members token q).mp mem
    exact if_neg (whole ▸ positive (List.ne_nil_of_mem mem))
  · rw [(sorted.map _).sum_eq]
    exact below.sum_shares (positive some_)

theorem probabilities_count_places_of_three_loads :
    let loads : List Load :=
      [.sentences ["a b c", "a b"], .text "a b d. a b", .tokens ["a", "b", "c"]]
    let m := trained 3 (by decide) .plain loads
    0 < 3 ∧ (∃ q, ("c", q) ∈ m.probabilities ["x", "a", "b"]) ∧
      (∀ q, ("<s/>", q) ∉ m.probabilities ["x", "a", "b"]) ∧
      (∀ q, ("d", q) ∈ m.probabilities ["x", "a", "b"] → q.count = 1) ∧
      ((m.probabilities ["x", "a", "b"]).map (·.2.exact)).sum = 1 := by
  intro loads m
  obtain ⟨_, members, _, whole⟩ :=
    probabilities_count_places 3 (by decide) .plain loads ["x", "a", "b"]
  have stands : 0 < places ["a", "b", "c"] (batches .plain loads) := by decide +kernel
  have once : places ["a", "b", "d"] (batches .plain loads) = 1 := by decide +kernel
  have known := (members "c" _).mpr ⟨by decide, stands, rfl⟩
  refine ⟨by decide, ⟨_, known⟩, fun q mem => ?_, fun q mem => ?_, whole (List.ne_nil_of_mem known)⟩
  · exact ((members _ q).mp mem).1 rfl
  · rw [((members _ q).mp mem).2.2]
    exact once

end TextGen.Markov
