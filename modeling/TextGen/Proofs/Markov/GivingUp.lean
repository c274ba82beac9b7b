import Mathlib
import TextGen.Proofs.Markov.Returning

/-! When choosing gives up.
A pick that falls on a marker goes on below it. Where nothing stands there it comes to a dead end,
and choosing gives up at once, whatever other branches there are. Without dead ends choosing gives
up only after every word was refused. -/
namespace TextGen.Markov

open Source (fractionSteps)

namespace Trie

/-- Markers lead to a place below which there is nothing. -/
def DeadEnd (trie : Trie) : Prop :=
  ∃ k, trie.walk? (List.replicate (k + 1) marker) = some .empty

theorem deadEnd_iff (trie : Trie) :
    trie.DeadEnd ↔ ∃ node, trie.child? marker = some node ∧ (node.2 = .empty ∨ node.2.DeadEnd) := by
  constructor
  · rintro ⟨k, walked⟩
    rw [List.replicate_succ, walk?, Option.bind_eq_some_iff] at walked
    obtain ⟨node, found, rest⟩ := walked
    refine ⟨node, found, ?_⟩
    cases k with
    | zero => exact .inl (Option.some.inj rest)
    | succ k => exact .inr ⟨k, rest⟩
  · rintro ⟨node, found, empty | ⟨k, walked⟩⟩
    · refine ⟨0, ?_⟩
      simp [walk?, found, empty]
    · refine ⟨k + 1, ?_⟩
      rw [List.replicate_succ, walk?, found]
      exact walked

theorem deadEnd_of_child? (trie other : Trie)
    (same : ∀ token node, trie.child? token = some node → other.child? token = some node)
    (h : trie.DeadEnd) : other.DeadEnd := by
  obtain ⟨node, found, below⟩ := (deadEnd_iff trie).mp h
  exact (deadEnd_iff other).mpr ⟨node, same _ _ found, below⟩

theorem eq_empty_iff (trie : Trie) : trie = .empty ↔ ∀ token, trie.child? token = none := by
  constructor
  · rintro rfl token
    rfl
  · intro none
    cases trie with
    | empty => rfl
    | branch token count below beside =>
      have found := none token
      rw [child?_branch, if_pos rfl] at found
      cases found

/- Picks that find nothing. -/

theorem eq_empty_of_sum_counts (trie : Trie) (proper : trie.Proper) (zero : trie.counts.sum = 0) :
    trie = .empty := by
  rw [sum_counts] at zero
  cases proper with
  | empty => rfl
  | branch _ passed _ _ _ =>
    rw [passes] at zero
    omega

theorem deadEnd_of_settle (trie : Trie) (proper : trie.Proper) (i : Nat) (inside : i < trie.width)
    (s s' : Source) (h : trie.settle i s = (none, s')) : trie.DeadEnd := by
  induction proper generalizing i s with
  | empty => cases inside
  | @branch token count below beside new _ _ properBelow _ ihBelow ihBeside =>
    cases i with
    | succ i =>
      have deeper := ihBeside i (Nat.lt_of_succ_lt_succ inside) s h
      exact deadEnd_of_child? _ _ (child?_beside new) deeper
    | zero =>
      rw [settle] at h
      split at h
      · rename_i same
        subst same
        apply (deadEnd_iff _).mpr
        refine ⟨(count, below), by rw [child?_branch, if_pos rfl], ?_⟩
        split at h
        · rename_i s₁ nothing
          exact .inl (eq_empty_of_sum_counts below properBelow
            (Source.sum_of_countedIndex?_eq_none nothing))
        · rename_i j s₁ chosen
          have within : j < below.width := by
            have bound := Source.countedIndex?_lt chosen
            rwa [counts, List.length_map] at bound
          refine .inr (ihBelow j within s₁ ?_)
          cases settled : below.settle j s₁ with
          | mk pick after =>
            simp only [settled, Prod.mk.injEq, Option.map_eq_none_iff] at h
            rw [h.1, h.2]
      · cases h

theorem deadEnd_of_pick (trie : Trie) (proper : trie.Proper) (some_ : trie ≠ .empty) (s s' : Source)
    (h : trie.pick s = (none, s')) : trie.DeadEnd := by
  rw [pick] at h
  split at h
  · rename_i nothing
    exact absurd (eq_empty_of_sum_counts trie proper (Source.sum_of_countedIndex?_eq_none nothing))
      some_
  · rename_i i s₁ chosen
    refine deadEnd_of_settle trie proper i ?_ s₁ s' h
    have bound := Source.countedIndex?_lt chosen
    rwa [counts, List.length_map] at bound

theorem settle_marker_of_none (count : Nat) (below beside : Trie) (s s' : Source)
    (h : below.pick s = (none, s')) :
    (branch marker count below beside).settle 0 s = (none, s') := by
  rw [settle, if_pos rfl]
  rw [pick] at h
  split at h
  · exact h
  · simp only [h, Option.map_none]

theorem exists_words_above (trie : Trie) (proper : trie.Proper)
    (small : 2 * trie.passes ≤ fractionSteps) (count : Nat) (below : Trie)
    (found : trie.child? marker = some (count, below)) (words : List UInt64)
    (onward : ∀ queue state, below.pick ⟨words ++ queue, state⟩ = (none, ⟨queue, state⟩)) :
    ∃ words, ∀ queue state, trie.pick ⟨words ++ queue, state⟩ = (none, ⟨queue, state⟩) := by
  obtain ⟨w, into⟩ := exists_word_into trie proper small marker count below found
  refine ⟨w :: words, fun queue state => ?_⟩
  rw [List.cons_append, into]
  exact settle_marker_of_none count below .empty _ _ (onward queue state)

theorem exists_words_to_deadEnd (trie : Trie) (proper : trie.Proper)
    (small : 2 * trie.passes ≤ fractionSteps) (h : trie.DeadEnd) :
    ∃ words, ∀ queue state, trie.pick ⟨words ++ queue, state⟩ = (none, ⟨queue, state⟩) := by
  obtain ⟨k, walked⟩ := h
  induction k generalizing trie with
  | zero =>
    obtain ⟨⟨count, below⟩, found, ends⟩ := Option.bind_eq_some_iff.mp walked
    cases Option.some.inj ends
    exact exists_words_above trie proper small count .empty found [] fun _ _ => rfl
  | succ k ih =>
    obtain ⟨⟨count, below⟩, found, rest⟩ := Option.bind_eq_some_iff.mp walked
    have inside := proper_child? trie proper marker count below found
    obtain ⟨words, onward⟩ := ih below inside.1
      ((Nat.mul_le_mul_left 2 inside.2).trans small) rest
    exact exists_words_above trie proper small count below found words onward

/- What refusals leave. -/

theorem deadEnd_of_without (trie : Trie) (proper : trie.Proper) (p : Pick)
    (h : (trie.without p).DeadEnd) : trie.DeadEnd := by
  rw [without] at h
  split at h
  · exact deadEnd_of_child? _ _ (child?_of_erase trie proper _) h
  · exact deadEnd_of_child? _ _ (child?_of_erase trie proper _) h
  · exact h

theorem child?_without (trie : Trie) (proper : trie.Proper) (p : Pick) {token : String}
    (word : token ≠ marker) (other : p.token ≠ token) :
    (trie.without p).child? token = trie.child? token := by
  rw [without]
  split
  · rw [child?_erase trie proper, if_neg other]
  · rw [child?_erase trie proper, if_neg word.symm]
  · rfl

end Trie

/- The loop of choices. -/

variable (m : Markov) (history : List String)

theorem isSome_copied?_of_choose (limit : Option Nat) (choices : Nat) (trie : Trie)
    (proper : trie.Proper) (through : ¬ trie.DeadEnd) (r : Run)
    (ends : m.EndsWithin history limit choices trie r)
    (gaveUp : (m.choose history limit choices trie r).1 = none) (token : String)
    (word : token ≠ marker) (known : (trie.child? token).isSome) :
    (m.copied? history limit token).isSome := by
  induction choices generalizing trie r with
  | zero =>
    have nothing : trie = .empty := ends
    subst nothing
    cases known
  | succ choices ih =>
    rw [EndsWithin, Run.draw] at ends
    rw [choose, Run.draw] at gaveUp
    cases picked : trie.pick r.source with
    | mk pick s =>
      cases pick with
      | none =>
        have some_ : trie ≠ .empty := by
          rintro rfl
          cases known
        exact absurd (trie.deadEnd_of_pick proper some_ _ s picked) through
      | some p =>
        cases copied : m.copied? history limit p.token with
        | none =>
          simp only [picked, copied] at gaveUp
          cases gaveUp
        | some window =>
          by_cases same : p.token = token
          · rw [← same, copied, Option.isSome_some]
          · simp only [picked, copied] at ends gaveUp
            apply ih (trie.without p) (trie.proper_without proper p) _ _ ends gaveUp
            · rwa [trie.child?_without proper p word same]
            · exact fun deadEnd => through (trie.deadEnd_of_without proper p deadEnd)

theorem endsWithin_unlimited (choices : Nat) (some_ : 0 < choices) (trie : Trie) (r : Run) :
    m.EndsWithin history none choices trie r := by
  obtain ⟨choices, rfl⟩ := Nat.exists_eq_add_one_of_ne_zero (Nat.ne_of_gt some_)
  rw [EndsWithin]
  cases r.draw trie.pick with
  | mk pick r₁ => cases pick <;> trivial

theorem isSome_choose_unlimited (choices : Nat) (some_ : 0 < choices) (trie : Trie)
    (proper : trie.Proper) (through : ¬ trie.DeadEnd) (r : Run) (token : String)
    (word : token ≠ marker) (known : (trie.child? token).isSome) :
    (m.choose history none choices trie r).1.isSome := by
  by_contra gaveUp
  have refused := isSome_copied?_of_choose m history none choices trie proper through r
    (endsWithin_unlimited m history choices some_ trie r) (Option.not_isSome_iff_eq_none.mp gaveUp)
    token word known
  cases refused

theorem gaveUp_of_pick (limit : Option Nat) (choices : Nat) (some_ : 0 < choices) (trie : Trie)
    (r : Run) (s : Source) (picked : trie.pick r.source = (none, s)) :
    m.EndsWithin history limit choices trie r ∧
      (m.choose history limit choices trie r).1 = none := by
  obtain ⟨choices, rfl⟩ := Nat.exists_eq_add_one_of_ne_zero (Nat.ne_of_gt some_)
  constructor
  · simp only [EndsWithin, Run.draw, picked]
  · simp only [choose, Run.draw, picked]

/- What the batches say about dead ends. -/

/-- A window that goes on from the path with markers only, and that no window continues. -/
def StopsAtMarkers (n : Nat) (batches : List (List String)) (path : List String) : Prop :=
  ∃ k, let w := path ++ List.replicate (k + 1) marker
    IsWindow n batches w ∧ ∀ token, ¬ IsWindow n batches (w ++ [token])

variable (n : Nat) (pos : 0 < n) (t : Tokenizer) (loads : List Load)

theorem walk?_eq_empty_iff (w : List String) (nonempty : w ≠ []) :
    (trained n pos t loads).trie.walk? w = some .empty ↔
      IsWindow n (batches t loads) w ∧ ∀ token, ¬ IsWindow n (batches t loads) (w ++ [token]) := by
  simp only [← isSome_count?_trained n pos t loads, ← Trie.isSome_walk? w nonempty,
    Trie.count?_append w _ (List.cons_ne_nil _ _)]
  cases (trained n pos t loads).trie.walk? w with
  | none => simp
  | some below => simp [Trie.eq_empty_iff]

theorem deadEnd_iff_stopsAtMarkers (path : List String) (trie : Trie)
    (walked : (trained n pos t loads).trie.walk? path = some trie) :
    trie.DeadEnd ↔ StopsAtMarkers n (batches t loads) path := by
  apply exists_congr
  intro k
  have whole : (trained n pos t loads).trie.walk? (path ++ List.replicate (k + 1) marker) =
      trie.walk? (List.replicate (k + 1) marker) := by
    rw [Trie.walk?_append, walked, Option.bind_some]
  rw [← whole]
  exact walk?_eq_empty_iff n pos t loads _ (by simp)

theorem not_stopsAtMarkers_of_unmarked (batches : List (List String))
    (unmarked : ∀ batch ∈ batches, marker ∉ batch) (path : List String) :
    ¬ StopsAtMarkers n batches path := by
  rintro ⟨k, ⟨_, _, batch, loaded, inside⟩, _⟩
  apply unmarked batch loaded
  exact inside.subset (by simp)

/-- Choosing gives up only when every word was refused. -/
def RefusesAll (m : Markov) (trie : Trie) : Prop :=
  ∀ history limit choices r, m.EndsWithin history limit choices trie r →
    (m.choose history limit choices trie r).1 = none →
    ∀ token, token ≠ marker → (trie.child? token).isSome → (m.copied? history limit token).isSome

/-- If no window stops at markers behind a path, choosing after this path gives up only when every
word was refused, so it never does without a limit on copies. If one does, some words of the source
lead the first pick there, and choosing gives up whatever words could be chosen instead. -/
theorem gives_up_iff (n : Nat) (pos : 0 < n) (t : Tokenizer) (loads : List Load) :
    let m := trained n pos t loads
    ∀ path trie, m.trie.walk? path = some trie →
      (¬ StopsAtMarkers n (batches t loads) path → m.RefusesAll trie ∧
        ∀ history choices r token, 0 < choices → token ≠ marker → (trie.child? token).isSome →
          (m.choose history none choices trie r).1.isSome) ∧
      (StopsAtMarkers n (batches t loads) path → 2 * tokenCount (batches t loads) ≤ fractionSteps →
        ∃ r, ∀ history limit choices, 0 < choices → m.EndsWithin history limit choices trie r ∧
          (m.choose history limit choices trie r).1 = none) := by
  intro m path trie walked
  obtain ⟨proper, counted⟩ := proper_walk?_trained n pos t loads path trie walked
  have stops := deadEnd_iff_stopsAtMarkers n pos t loads path trie walked
  constructor
  · intro goesOn
    have through : ¬ trie.DeadEnd := fun deadEnd => goesOn (stops.mp deadEnd)
    constructor
    · exact fun history limit choices r ends gaveUp token word known =>
        isSome_copied?_of_choose m history limit choices trie proper through r ends gaveUp token
          word known
    · exact fun history choices r token some_ word known =>
        isSome_choose_unlimited m history choices some_ trie proper through r token word known
  · intro stopped small
    obtain ⟨words, toward⟩ := trie.exists_words_to_deadEnd proper
      ((Nat.mul_le_mul_left 2 counted).trans small) (stops.mpr stopped)
    refine ⟨⟨⟨words ++ [], 0⟩, []⟩, fun history limit choices some_ => ?_⟩
    exact gaveUp_of_pick m history limit choices some_ trie _ _ (toward [] 0)

/-- Both words after the first token are refused under a limit of 1. After the end of a sentence a
pick can fall on the marker of the next one, which is the last token of a window. -/
theorem gives_up_after_refusals_or_at_marker :
    (let loads : List Load := [.tokens ["the", "cat", "sat", "the", "dog", "sat"]]
    let m := trained 2 (by decide) .plain loads
    let r : Run := ⟨⟨[0, 0], 0⟩, []⟩
    ∃ trie, m.trie.walk? ["the"] = some trie ∧ ¬ StopsAtMarkers 2 (batches .plain loads) ["the"] ∧
      (m.choose ["the"] (some 1) 2 trie r).1 = none ∧ (m.copied? ["the"] (some 1) "dog").isSome ∧
      (m.choose ["the"] none 1 trie r).1.isSome) ∧
    (let loads : List Load := [.sentences ["A.", "B.", "C. d"]]
    let m := trained 2 (by decide) .plain loads
    ∃ trie, m.trie.walk? ["."] = some trie ∧ StopsAtMarkers 2 (batches .plain loads) ["."] ∧
      (trie.child? "d").isSome ∧
      ∃ r, ∀ history limit choices, 0 < choices →
        (m.choose history limit choices trie r).1 = none) := by
  constructor
  · intro loads m r
    obtain ⟨trie, walked⟩ : ∃ trie, m.trie.walk? ["the"] = some trie :=
      Option.isSome_iff_exists.mp (by decide +kernel)
    have same : trie = (m.trie.walk? ["the"]).getD .empty := by rw [walked, Option.getD_some]
    have unmarked : ∀ batch ∈ batches .plain loads, marker ∉ batch := by decide +kernel
    have goesOn := not_stopsAtMarkers_of_unmarked 2 _ unmarked ["the"]
    have gaveUp : (m.choose ["the"] (some 1) 2 trie r).1 = none := by
      rw [same]
      decide +kernel
    have dog : (trie.child? "dog").isSome := by
      rw [same]
      decide +kernel
    have ends : m.EndsWithin ["the"] (some 1) 2 trie r := by
      have apart : ∀ batch ∈ batches .plain loads, ¬ [marker, marker] <:+: batch := by
        intro batch loaded pair
        exact unmarked batch loaded (pair.subset List.mem_cons_self)
      have two : trie.width = 2 := by
        rw [same]
        decide +kernel
      rw [← two]
      apply m.endsWithin_width ["the"] (some 1) trie
      · exact (proper_walk?_trained 2 (by decide) .plain loads ["the"] trie walked).1
      · exact markers_le_one 2 (by decide) .plain loads ["the"] trie walked
          (not_wordBelowMarkers_of_apart 2 _ apart ["the"])
    obtain ⟨refused, found⟩ :=
      (gives_up_iff 2 (by decide) .plain loads ["the"] trie walked).1 goesOn
    refine ⟨trie, walked, goesOn, gaveUp, ?_, ?_⟩
    · exact refused ["the"] (some 1) 2 r ends gaveUp "dog" (by decide) dog
    · exact found ["the"] 1 r "dog" Nat.one_pos (by decide) dog
  · intro loads m
    obtain ⟨trie, walked⟩ : ∃ trie, m.trie.walk? ["."] = some trie :=
      Option.isSome_iff_exists.mp (by decide +kernel)
    have same : trie = (m.trie.walk? ["."]).getD .empty := by rw [walked, Option.getD_some]
    have stops : StopsAtMarkers 2 (batches .plain loads) ["."] := by
      refine ⟨0, ⟨by simp, by simp, by decide +kernel⟩, fun token window => ?_⟩
      exact absurd window.2.1 (by simp)
    obtain ⟨r, gaveUp⟩ :=
      (gives_up_iff 2 (by decide) .plain loads ["."] trie walked).2 stops (by decide +kernel)
    refine ⟨trie, walked, stops, ?_, r, fun history limit choices some_ => ?_⟩
    · rw [same]
      decide +kernel
    · exact (gaveUp history limit choices some_).2

/-- The word d may follow the end of a sentence, but it is not found if each attempt begins with a
pick that falls on the marker. -/
theorem gives_up_beside_word :
    (¬ ∀ (n : Nat) (pos : 0 < n) (t : Tokenizer) (loads : List Load) (path : List String)
      (trie : Trie), (trained n pos t loads).trie.walk? path = some trie →
      (trained n pos t loads).RefusesAll trie) ∧
    (let m := trained 2 (by decide) .plain [.sentences ["A.", "B.", "C. d"]]
    let r : Run := ⟨⟨List.replicate 999 0, 0⟩, []⟩
    (m.generateTokens 2 { startTokens := some ["."] } r).1 = .error (.exhausted 999 false)) := by
  constructor
  · intro all
    let m := trained 2 (by decide) .plain [.sentences ["A.", "B.", "C. d"]]
    let r : Run := ⟨⟨[0], 0⟩, []⟩
    obtain ⟨trie, walked⟩ : ∃ trie, m.trie.walk? ["."] = some trie :=
      Option.isSome_iff_exists.mp (by decide +kernel)
    have same : trie = (m.trie.walk? ["."]).getD .empty := by rw [walked, Option.getD_some]
    have picked : trie.pick r.source = (none, ⟨[], 0⟩) := by
      rw [same]
      decide +kernel
    have known : (trie.child? "d").isSome := by
      rw [same]
      decide +kernel
    obtain ⟨ends, gaveUp⟩ := gaveUp_of_pick m ["."] none 1 Nat.one_pos trie r _ picked
    have refused := all 2 (by decide) .plain [.sentences ["A.", "B.", "C. d"]] ["."] trie walked
      ["."] none 1 r ends gaveUp "d" (by decide) known
    cases refused
  · intro m r
    decide +kernel

end TextGen.Markov
