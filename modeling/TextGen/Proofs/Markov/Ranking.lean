import Mathlib
import TextGen.Proofs.Markov.Contexts

/-! Shares in order.
Sorting is stable: items that the order does not tell apart keep their places. So the first share of
a token is the same before and after sorting, and it is the one that a longer path leads to. Tokens
of equal shares are ranked by their text. -/
namespace TextGen.Markov

section

variable {α : Type} (r : α → α → Prop) [DecidableRel r] [Std.Total r] [IsTrans α r]

theorem filter_mergeSort (test : α → Bool)
    (alike : ∀ a b, test a = true → test b = true → r a b) (items : List α) :
    (items.mergeSort fun a b => r a b).filter test = items.filter test := by
  have ordered : (items.filter test).Pairwise fun a b => decide (r a b) = true :=
    List.pairwise_filter.mpr (List.pairwise_of_forall fun a b first second =>
      decide_eq_true (alike a b first second))
  have kept : (items.filter test).Sublist (items.mergeSort fun a b => r a b) := by
    refine List.sublist_mergeSort (fun a b c first second => ?_) (fun a b => ?_) ordered
      List.filter_sublist
    · exact decide_eq_true
        (Trans.trans (of_decide_eq_true first : r a b) (of_decide_eq_true second : r b c))
    · simpa using Std.Total.total (r := r) a b
  have inside := kept.filter test
  rw [List.filter_filter] at inside
  simp only [Bool.and_self] at inside
  exact (inside.eq_of_length ((List.mergeSort_perm _ _).symm.filter test).length_eq).symm

theorem pairwise_mergeSort_of_pairwise {before : α → α → Prop} {items : List α}
    (h : items.Pairwise before) :
    (items.mergeSort fun a b => r a b).Pairwise fun a b => r a b ∧ (r b a → before a b) := by
  have ordered : (items.mergeSort fun a b => r a b).Pairwise r := List.pairwise_mergeSort' r items
  rw [List.pairwise_iff_forall_sublist] at ordered h ⊢
  intro a b inside
  have first : r a b := ordered inside
  refine ⟨first, fun second => h ?_⟩
  -- the items that are no different from the first of the two
  let test (x : α) : Bool := r a x ∧ r x a
  have alike : ∀ x y, test x = true → test y = true → r x y := fun x y onX onY =>
    Trans.trans (of_decide_eq_true onX).2 (of_decide_eq_true onY).1
  have itself : r a a := (Std.Total.total (r := r) a a).elim id id
  have both : [a, b].filter test = [a, b] := by
    simp [test, first, second, itself]
  have sorted := inside.filter test
  rw [both, filter_mergeSort r test alike] at sorted
  exact sorted.trans List.filter_sublist

end

section

variable {β : Type} (key : String)

theorem lookup_cons_of_ne {other : String} (different : other ≠ key) (value : β)
    (items : List (String × β)) : ((other, value) :: items).lookup key = items.lookup key := by
  rw [List.lookup_cons, beq_eq_false_iff_ne.mpr different.symm]

theorem lookup_eq_head? (items : List (String × β)) :
    items.lookup key = (items.filter (·.1 = key)).head?.map (·.2) := by
  induction items with
  | nil => rfl
  | cons item items ih =>
    obtain ⟨other, value⟩ := item
    by_cases same : other = key
    · subst same
      simp
    · rw [lookup_cons_of_ne key same, ih, List.filter_cons_of_neg (by simpa using same)]

theorem lookup_mergeSort (items : List (String × β)) :
    (items.mergeSort fun a b => a.1 ≤ b.1).lookup key = items.lookup key := by
  have stable := filter_mergeSort (fun a b : String × β => a.1 ≤ b.1) (fun item => item.1 = key)
    (fun a b first second => by
      rw [of_decide_eq_true first, of_decide_eq_true second]) items
  rw [lookup_eq_head?, lookup_eq_head?, stable]

theorem lookup_map_value {γ : Type} (f : β → γ) (items : List (String × β)) :
    (items.map fun item => (item.1, f item.2)).lookup key = (items.lookup key).map f := by
  induction items with
  | nil => rfl
  | cons item items ih =>
    rw [List.map_cons, List.lookup_cons, List.lookup_cons, ih]
    split <;> rfl

end

namespace Trie

theorem words_branch (token : String) (count : Nat) (below beside : Trie) :
    (branch token count below beside).words =
      if token = marker then beside.words else (token, count) :: beside.words := by
  rw [words, entries, List.filter_cons]
  by_cases same : token = marker <;> simp [same, words]

theorem lookup_words (trie : Trie) (token : String) (other : token ≠ marker) :
    trie.words.lookup token = (trie.child? token).map (·.1) := by
  induction trie with
  | empty => rfl
  | branch t count below beside _ ih =>
    rw [words_branch, child?_branch]
    by_cases same : t = token
    · subst same
      rw [if_neg other, if_pos rfl, List.lookup_cons_self]
      rfl
    · by_cases word : t = marker
      · rw [if_pos word, if_neg same, ih]
      · rw [if_neg word, if_neg same, lookup_cons_of_ne token same, ih]

theorem lookup_shares (trie : Trie) (token : String) (other : token ≠ marker) :
    trie.shares.lookup token = (trie.count? [token]).map fun count => ⟨count, trie.total⟩ := by
  have values := lookup_map_value token (fun count => (⟨count, trie.total⟩ : Ratio)) trie.words
  rw [count?_singleton, ← lookup_words trie token other]
  exact values

end Trie

theorem lastItems_append_singleton {α : Type} {k : Nat} (pos : 0 < k) (items : List α) (last : α) :
    lastItems k (items ++ [last]) = lastItems (k - 1) items ++ [last] := by
  rw [lastItems, lastItems, List.length_append, List.length_singleton,
    List.drop_append_of_le_length (by omega)]
  congr 2
  omega

/-- The probability of a path is what the probabilities after the path without its last token say of
this token, and zero if they do not mention it. -/
theorem probability_eq_lookup (m : Markov) (path : List String) (token : String)
    (other : token ≠ marker) :
    let known := (m.probabilities path).lookup token
    m.probability (path ++ [token]) = known.getD ⟨0, 0⟩ ∧
      (m.probability (path ++ [token])).toFloat = (known.map Ratio.toFloat).getD 0.0 ∧
      (m.probability (path ++ [token])).exact = (known.map Ratio.exact).getD 0 := by
  intro known
  have found : m.trie.share? (lastItems m.order (path ++ [token])) = known := by
    have walked : m.search? path = m.trie.walk? (lastItems (m.order - 1) path) := rfl
    rw [lastItems_append_singleton m.order_pos, Trie.share?_append,
      Trie.count?_append _ _ (List.cons_ne_nil _ _), Trie.totalBelow, ← walked]
    simp only [known, probabilities]
    cases m.search? path with
    | none => rfl
    | some below =>
      simp only [lookup_mergeSort, Trie.lookup_shares below token other]
      rfl
  have same : m.probability (path ++ [token]) = known.getD ⟨0, 0⟩ := by rw [probability, found]
  refine ⟨same, ?_, ?_⟩
  · rw [same]
    cases known <;> rfl
  · rw [same]
    cases known with
    | none => exact div_zero _
    | some q => rfl

theorem probability_eq_lookup_of_long_path :
    let m := trained 2 (by decide) .plain [.tokens ["the", "cat", "sat", "the", "dog", "sat"]]
    let known := m.probabilities ["dog", "the"]
    ("cat" ≠ marker ∧ m.probability ["dog", "the", "cat"] = ⟨1, 2⟩ ∧
      known.lookup "cat" = some ⟨1, 2⟩) ∧
    ("sat" ≠ marker ∧ m.probability ["dog", "the", "sat"] = ⟨0, 0⟩ ∧
      (known.lookup "sat").getD ⟨0, 0⟩ = ⟨0, 0⟩) := by
  intro m known
  have half : m.probability ["dog", "the", "cat"] = ⟨1, 2⟩ := rfl
  have zero : m.probability ["dog", "the", "sat"] = ⟨0, 0⟩ := rfl
  have cat := (probability_eq_lookup m ["dog", "the"] "cat" (by decide)).1
  have sat := (probability_eq_lookup m ["dog", "the"] "sat" (by decide)).1
  have key := (Option.getD_eq_iff.mp (cat.symm.trans half)).resolve_right fun none =>
    absurd none.2 (by decide)
  exact ⟨⟨by decide, half, key⟩, by decide, zero, sat.symm.trans zero⟩

end TextGen.Markov
