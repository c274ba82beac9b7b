import Mathlib
import TextGen.Proofs.Markov.Effort
import TextGen.Proofs.Markov.Refusal

/-! Generators return if no word stands below two markers.
The loop of choices after some tokens is bounded by the number of branches there exactly if no
window goes on from these tokens with two or more markers and then a word. -/
namespace TextGen.Markov

open Source (fractionSteps)

/-- A window that goes on from the path with two or more markers and then another token. -/
def WordBelowMarkers (n : Nat) (batches : List (List String)) (path : List String) : Prop :=
  ∃ p : Pick, p.token ≠ marker ∧ 2 ≤ p.markers ∧
    IsWindow n batches (path ++ (List.replicate p.markers marker ++ [p.token]))

theorem not_wordBelowMarkers_of_apart (n : Nat) (batches : List (List String))
    (apart : ∀ batch ∈ batches, ¬ [marker, marker] <:+: batch) (path : List String) :
    ¬ WordBelowMarkers n batches path := by
  rintro ⟨p, _, many, _, _, batch, loaded, inside⟩
  obtain ⟨k, more⟩ := Nat.exists_eq_add_of_le' many
  have pair : [marker, marker] <:+: path ++ (List.replicate p.markers marker ++ [p.token]) := by
    rw [more, List.replicate_succ, List.replicate_succ]
    exact ⟨path, List.replicate k marker ++ [p.token], by simp⟩
  exact apart batch loaded (pair.trans inside)

/- What the batches say about a tree below a path. -/

variable (n : Nat) (pos : 0 < n) (t : Tokenizer) (loads : List Load)

theorem leads_iff_isWindow (path : List String) (trie : Trie)
    (walked : (trained n pos t loads).trie.walk? path = some trie) (p : Pick) :
    trie.Leads p ↔ p.token ≠ marker ∧
      IsWindow n (batches t loads) (path ++ (List.replicate p.markers marker ++ [p.token])) := by
  rw [← isSome_count?_trained n pos t loads, Trie.count?_append _ _ (by simp), walked]
  exact Iff.rfl

theorem markers_le_one (path : List String) (trie : Trie)
    (walked : (trained n pos t loads).trie.walk? path = some trie)
    (none : ¬ WordBelowMarkers n (batches t loads) path) (p : Pick) (leads : trie.Leads p) :
    p.markers ≤ 1 := by
  by_contra many
  have window := (leads_iff_isWindow n pos t loads path trie walked p).mp leads
  exact none ⟨p, window.1, Nat.lt_of_not_le many, window.2⟩

theorem proper_walk?_trained (path : List String) (trie : Trie)
    (walked : (trained n pos t loads).trie.walk? path = some trie) :
    trie.Proper ∧ trie.passes ≤ tokenCount (batches t loads) := by
  have inside := Trie.proper_walk? path _ (proper_trained n pos t loads) trie walked
  exact ⟨inside.1, inside.2.trans (passes_trained_le n pos t loads)⟩

theorem mem_input_of_isWindow (w : List String) (h : IsWindow n (batches t loads) w)
    (token : String) (other : token ≠ marker) (mem : token ∈ w) :
    token ∈ (trained n pos t loads).input := by
  obtain ⟨_, _, batch, loaded, inside⟩ := h
  obtain ⟨l, here, rfl⟩ := List.mem_map.mp loaded
  rw [input_trained]
  exact List.mem_flatMap.mpr ⟨l, here, mem_kept t l token other (inside.subset mem)⟩

section

variable {m : Markov} {limit : Option Nat}

theorem refusesAtMost_unlimited : m.RefusesAtMost none 0 := by
  intro tokens r
  rw [extend?]
  split
  · exact Nat.le_refl _
  · exact Nat.le_of_eq (congrArg List.length (notices_choose_unlimited m tokens _ _ r))

theorem refusesAtMost_of_endsWithin (c : Nat)
    (ends : ∀ tokens r trie, m.search? tokens = some trie →
      trie.width ≤ c ∧ m.EndsWithin tokens limit trie.width trie r) :
    m.RefusesAtMost limit c := by
  intro tokens r
  rw [extend?]
  split
  · exact Nat.le_add_right _ _
  · rename_i trie found
    obtain ⟨narrow, ending⟩ := ends tokens r trie found
    exact (notices_choose m tokens limit trie.width _ trie r ending).trans
      (Nat.add_le_add_left narrow _)

end

/-- Generators return: an extension is decided after at most as many choices as there are branches,
however many are allowed, and so the attempts bound the tokens that a whole call refuses. -/
structure Returns (m : Markov) : Prop where
  extension : ∀ limit tokens r trie allowed, m.search? tokens = some trie → trie.width ≤ allowed →
    m.choose tokens limit allowed trie r = m.extend? limit tokens r
  tokens : ∀ num o r, (m.generateTokens num o r).2.notices.length ≤
    r.notices.length + attempts * (num * m.trie.size)
  ending : ∀ test o r, (m.generateUntil test o r).2.notices.length ≤
    r.notices.length + attempts * (o.maxLength * m.trie.size)
  sentences : ∀ num o r, (m.generateSentences num o r).2.notices.length ≤
    r.notices.length + ((num + attempts) * (o.maxLength * m.trie.size + 1) + 1)

theorem width_le_allowed (trie : Trie) (s : Source) :
    trie.width ≤ (trie.width + 1) * s.patience := by
  have patient : 1 ≤ s.patience := by
    rw [Source.patience]
    exact Nat.le_add_left 1 _ |>.trans (Nat.add_le_add_left (by decide) _)
  exact (Nat.le_succ _).trans (Nat.le_mul_of_pos_right _ patient)

theorem returns_of_endsWithin (m : Markov)
    (ends : ∀ limit tokens r trie, m.search? tokens = some trie →
      m.EndsWithin tokens limit trie.width trie r) : Returns m := by
  have cheap : ∀ limit, m.RefusesAtMost limit m.trie.size := fun limit =>
    refusesAtMost_of_endsWithin m.trie.size fun tokens r trie found =>
      ⟨trie.width_le_size.trans (Trie.size_walk?_le _ m.trie trie found),
        ends limit tokens r trie found⟩
  refine ⟨fun limit tokens r trie allowed found enough => ?_, fun num o r => ?_,
    fun test o r => ?_, fun num o r => ?_⟩
  · have ending := ends limit tokens r trie found
    rw [extend?, found]
    rw [choose_of_endsWithin m tokens limit trie.width allowed enough trie r ending]
    exact (choose_of_endsWithin m tokens limit trie.width _ (width_le_allowed trie r.source) trie
      r ending).symm
  · exact notices_generateTokens (cheap _) num r
  · exact notices_generateUntil refusesAtMost_unlimited (cheap _) test r
  · exact notices_generateSentences (cheap _) num r

/-- The loop of choices below a path is bounded by the number of branches, because every refusal
takes one away, exactly if no word stands there below two markers. Otherwise a refusal can leave
everything as it was, and no number bounds the choices after any tokens. -/
theorem choices_bounded_iff :
    (∀ path trie, (trained n pos t loads).trie.walk? path = some trie →
      (¬ WordBelowMarkers n (batches t loads) path →
        (∀ s s' p, trie.pick s = (some p, s') → (trie.without p).width < trie.width) ∧
        ∀ history limit r,
          (trained n pos t loads).EndsWithin history limit trie.width trie r) ∧
      (WordBelowMarkers n (batches t loads) path →
        2 * tokenCount (batches t loads) ≤ fractionSteps →
        (∃ s s' p, trie.pick s = (some p, s') ∧ trie.without p = trie) ∧
        ∀ choices history, ∃ r,
          ¬ (trained n pos t loads).EndsWithin history (some 0) choices trie r)) ∧
    ((∀ path, ¬ WordBelowMarkers n (batches t loads) path) → Returns (trained n pos t loads)) := by
  let m := trained n pos t loads
  have tree := proper_walk?_trained n pos t loads
  have few := markers_le_one n pos t loads
  refine ⟨fun path trie walked => ⟨fun none => ⟨?_, ?_⟩, fun word small => ?_⟩, fun none => ?_⟩
  · intro s s' p picked
    have leads := trie.leads_of_pick (tree path trie walked).1 s s' p picked
    exact (trie.width_without_lt_iff p leads).mpr (few path trie walked none p leads)
  · exact fun history limit r => endsWithin_width m history limit trie
      (tree path trie walked).1 (few path trie walked none) r
  · obtain ⟨p, other, many, window⟩ := word
    obtain ⟨proper, counted⟩ := tree path trie walked
    have leads := (leads_iff_isWindow n pos t loads path trie walked p).mpr ⟨other, window⟩
    have light : 2 * trie.passes ≤ fractionSteps := (Nat.mul_le_mul_left 2 counted).trans small
    have mem : p.token ∈ m.input :=
      mem_input_of_isWindow n pos t loads _ window p.token other (by simp)
    constructor
    · obtain ⟨words, toward⟩ := trie.exists_words_to p.markers p.token proper light leads
      exact ⟨_, _, _, toward [] 0, trie.without_of_two_markers p many⟩
    · intro choices history
      obtain ⟨queue, endless⟩ :=
        exists_not_endsWithin m history trie proper light p leads many mem choices
      exact ⟨_, endless 0 []⟩
  · refine returns_of_endsWithin m fun limit tokens r trie found => ?_
    have narrow := few _ trie found (none _)
    exact endsWithin_width m tokens limit trie (tree _ trie found).1 narrow r

/-- Markers before sentences stand apart. In other tokens they need not, and then a word can stand
below two of them. -/
theorem choices_bounded_for_sentences_not_for_tokens :
    let sentences : List Load := [.sentences ["a b.", "c a"], .tokens ["b", "c"]]
    let tokens : List Load := [.tokens ["x", "<s/>", "<s/>", "a"]]
    let m := trained 4 (by decide) .plain tokens
    Returns (trained 4 (by decide) .plain sentences) ∧
      ∃ trie, m.trie.walk? ["x"] = some trie ∧ WordBelowMarkers 4 (batches .plain tokens) ["x"] ∧
        ∀ choices history, ∃ r, ¬ m.EndsWithin history (some 0) choices trie r := by
  intro sentences tokens m
  have apart : ∀ batch ∈ batches .plain sentences, ¬ [marker, marker] <:+: batch := by
    decide +kernel
  have word : WordBelowMarkers 4 (batches .plain tokens) ["x"] :=
    ⟨⟨"a", 2⟩, by decide, Nat.le_refl 2, by simp, by simp, _, List.mem_cons_self, List.infix_rfl⟩
  constructor
  · exact (choices_bounded_iff 4 (by decide) .plain sentences).2
      (not_wordBelowMarkers_of_apart 4 _ apart)
  · have walked : (m.trie.walk? ["x"]).isSome := by decide +kernel
    obtain ⟨trie, walked⟩ := Option.isSome_iff_exists.mp walked
    have below := (choices_bounded_iff 4 (by decide) .plain tokens).1 ["x"] trie walked
    exact ⟨trie, walked, word, (below.2 word (by decide)).2⟩

/-- After x there are two branches and four refusals. If there is one branch and no token of the
input is allowed, the refusals never end. -/
theorem choices_not_bounded_by_width :
    (let m := trained 4 (by decide) .plain
      [.tokens ["x", "<s/>", "<s/>", "a", "x", "a", "x", "<s/>", "<s/>", "b"]]
    let words : List UInt64 :=
      [0, 0, 0, 0, 0, 0, 0xF000000000000000, 0, 0, 0, 0, 0, 0xF000000000000000]
    ∃ trie, m.search? ["x"] = some trie ∧ trie.width = 2 ∧
      ¬ m.EndsWithin ["x"] (some 1) trie.width trie ⟨⟨words, 0⟩, []⟩) ∧
    (let m := trained 4 (by decide) .plain [.tokens ["x", "<s/>", "<s/>", "a"]]
    ∃ trie, m.search? ["x"] = some trie ∧ trie.width = 1 ∧
      ∀ choices r, ¬ m.EndsWithin ["x"] (some 0) choices trie r) := by
  constructor
  · intro m words
    let r : Run := ⟨⟨words, 0⟩, []⟩
    obtain ⟨trie, found⟩ : ∃ trie, m.search? ["x"] = some trie :=
      Option.isSome_iff_exists.mp (by decide +kernel)
    have same : trie = (m.search? ["x"]).getD .empty := by rw [found, Option.getD_some]
    have width : trie.width = 2 := by
      rw [same]
      decide +kernel
    have refusals : (m.choose ["x"] (some 1) 5 trie r).2.notices.length = 4 := by
      rw [same]
      decide +kernel
    refine ⟨trie, found, width, fun ends => ?_⟩
    have atMost := m.notices_choose ["x"] (some 1) trie.width 5 trie r ends
    rw [refusals, width] at atMost
    exact absurd atMost (by decide)
  · intro m
    let inner := Trie.branch marker 1 (.branch "a" 1 .empty .empty) .empty
    let trie := Trie.branch marker 1 inner .empty
    have found : m.search? ["x"] = some trie := by decide +kernel
    have inside : ∀ s, inner.pick s = (some ⟨"a", 1⟩, s.next.2.next.2) := by
      intro s
      rw [Trie.pick_single marker 1 Nat.one_pos]
      refine Trie.settle_marker 1 _ _ _ _ ⟨"a", 0⟩ ?_
      rw [Trie.pick_single "a" 1 Nat.one_pos, Trie.settle_word "a" (by decide)]
    have only : ∀ s, ∃ s', trie.pick s = (some ⟨"a", 2⟩, s') := by
      intro s
      rw [Trie.pick_single marker 1 Nat.one_pos]
      exact ⟨_, Trie.settle_marker 1 _ _ _ _ ⟨"a", 1⟩ (inside _)⟩
    exact ⟨trie, found, rfl, m.not_endsWithin_of_pick ["x"] (some 0) trie ⟨"a", 2⟩ (Nat.le_refl 2)
      only ["a"] (by decide +kernel)⟩

end TextGen.Markov
