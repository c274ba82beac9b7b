import Mathlib
import TextGen.Markov.Query
import TextGen.Proofs.Markov.Totals

/-! Shares as probabilities.
The share of a token is the number of places of the path that ends with it, over the number of places
at which a word follows the rest of the path. A word is one of those that follow, so its share is at
most 1. The marker is not, so its share can be any number. -/
namespace TextGen.Markov

/-- The value of a share, without rounding. A share of nothing is zero. -/
def Ratio.exact (q : Ratio) : ℚ := q.count / q.total

theorem Ratio.exact_nonneg (q : Ratio) : 0 ≤ q.exact :=
  div_nonneg (Nat.cast_nonneg _) (Nat.cast_nonneg _)

theorem Ratio.exact_le_one_iff (q : Ratio) : q.exact ≤ 1 ↔ q.total = 0 ∨ q.count ≤ q.total := by
  rw [exact]
  rcases Nat.eq_zero_or_pos q.total with none | some_
  · simp [none]
  · rw [div_le_one (Nat.cast_pos.mpr some_), Nat.cast_le]
    exact (or_iff_right (Nat.ne_of_gt some_)).symm

theorem Trie.share?_append (path : List String) (token : String) (trie : Trie) :
    trie.share? (path ++ [token]) =
      (trie.count? (path ++ [token])).map fun count => ⟨count, trie.totalBelow path⟩ := by
  induction path generalizing trie with
  | nil =>
    rw [List.nil_append, share?, count?_singleton, totalBelow_nil, Option.map_map]
    rfl
  | cons step path ih =>
    obtain ⟨next, rest, split⟩ := List.exists_cons_of_ne_nil
      (List.append_ne_nil_of_right_ne_nil path (List.cons_ne_nil token []))
    rw [List.cons_append, split, count?_cons_cons, share?, ← split, totalBelow_cons]
    · cases trie.child? step with
      | none => rfl
      | some node => exact ih node.2
    · nofun

theorem getLast?_lastItems {α : Type} {k : Nat} (pos : 0 < k) (items : List α) :
    (lastItems k items).getLast? = items.getLast? := by
  rw [lastItems, List.getLast?_drop]
  split
  · rename_i short
    have empty : items = [] := List.eq_nil_of_length_eq_zero (by omega)
    rw [empty]
    rfl
  · rfl

variable (n : Nat) (pos : 0 < n) (t : Tokenizer) (loads : List Load)

theorem probability_trained (path before : List String) (token : String)
    (used : lastItems n path = before ++ [token]) :
    (trained n pos t loads).probability path =
      if places (before ++ [token]) (batches t loads) = 0 then ⟨0, 0⟩
      else ⟨places (before ++ [token]) (batches t loads), followed before (batches t loads)⟩ := by
  have short : before.length < n := by
    have length := congrArg List.length used
    rw [lastItems, List.length_drop, List.length_append, List.length_singleton] at length
    omega
  have counted := count?_trained n pos t loads (before ++ [token]) (by simp) (by simp; omega)
  rw [probability, order_trained, used, Trie.share?_append, counted,
    totalBelow_trained n pos t loads before short]
  split <;> rfl

/-- The probability of a path is the quotient of two counts of places, and never negative. It is at
most 1 unless the path ends with the marker, and then exactly if the marker follows the tokens before
it no more often than words do, or no word follows them. -/
theorem probability_le_one_iff (n : Nat) (pos : 0 < n) (t : Tokenizer) (loads : List Load)
    (path : List String) :
    let used := lastItems n path
    let known := batches t loads
    let p := ((trained n pos t loads).probability path).exact
    (p = if path = [] then 0 else (places used known : ℚ) / followed used.dropLast known) ∧ 0 ≤ p ∧
      (p ≤ 1 ↔ path.getLast? = some marker →
        followed used.dropLast known = 0 ∨ places used known ≤ followed used.dropLast known) := by
  intro used known p
  have ends : used.getLast? = path.getLast? := getLast?_lastItems pos path
  rcases List.eq_nil_or_concat' used with empty | ⟨before, token, split⟩
  · have none : path = [] := by
      rw [empty] at ends
      exact List.getLast?_eq_none_iff.mp ends.symm
    have zero : p = 0 := by
      subst none
      have nothing : (trained n pos t loads).probability [] = ⟨0, 0⟩ := by
        rw [probability, lastItems, List.drop_nil]
        rfl
      simp [p, nothing, Ratio.exact]
    rw [zero, none]
    simp
  · have some_ : path ≠ [] := by
      rintro rfl
      rw [split, List.getLast?_concat] at ends
      cases ends
    have last : path.getLast? = some token := by rw [← ends, split, List.getLast?_concat]
    have found := probability_trained n pos t loads path before token split
    have rest : used.dropLast = before := by rw [split, List.dropLast_concat]
    have whole : p = places used known / followed used.dropLast known := by
      rw [rest, split]
      simp only [p, found]
      split_ifs with none
      · simp [Ratio.exact, known, none]
      · rfl
    have nonneg : 0 ≤ p := Ratio.exact_nonneg _
    refine ⟨?_, nonneg, ?_⟩
    · rw [if_neg some_, whole]
    · have bound := Ratio.exact_le_one_iff ⟨places used known, followed used.dropLast known⟩
      rw [whole, last]
      refine bound.trans ⟨fun small _ => small, fun small => ?_⟩
      by_cases word : token = marker
      · exact small (congrArg some word)
      · rw [rest, split]
        exact .inr (places_le_followed before word known)

theorem probability_le_one_of_word_not_of_marker :
    let m := trained 2 (by decide) .plain [.sentences ["A.", "B.", "C. d"]]
    0 < 2 ∧ (m.probability [".", "d"]).exact ≤ 1 ∧ (m.probability ["<s/>"]).exact ≤ 1 ∧
      ¬ (m.probability [".", "<s/>"]).exact ≤ 1 := by
  intro m
  have bound := probability_le_one_iff 2 (by decide) .plain [.sentences ["A.", "B.", "C. d"]]
  refine ⟨by decide, (bound [".", "d"]).2.2.mpr nofun, (bound ["<s/>"]).2.2.mpr fun _ => .inr ?_,
    fun small => ?_⟩
  · decide +kernel
  · have few := (bound [".", "<s/>"]).2.2.mp small rfl
    exact absurd few (by decide +kernel)

/-- Sentences that are split before they are loaded can give the marker a probability of 2. -/
theorem probability_exceeds_one :
    ¬ ∀ (n : Nat) (pos : 0 < n) (t : Tokenizer) (loads : List Load) (path : List String),
      0 ≤ ((trained n pos t loads).probability path).exact ∧
        ((trained n pos t loads).probability path).exact ≤ 1 := by
  intro all
  have two : (trained 2 (by decide) .plain [.sentences ["A.", "B.", "C. d"]]).probability
      [".", "<s/>"] = ⟨2, 1⟩ := by decide +kernel
  have small := (all 2 (by decide) .plain [.sentences ["A.", "B.", "C. d"]] [".", "<s/>"]).2
  rw [two, Ratio.exact] at small
  norm_num at small

end TextGen.Markov
