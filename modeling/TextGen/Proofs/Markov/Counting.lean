import Mathlib
import TextGen.Proofs.Markov.Tree
import TextGen.Proofs.Markov.Window

/-! A tree counts exactly the windows that were inserted into it.
The counts of a tree are read as a function of paths, and every insertion is an addition to this
function. The branches themselves are in bijection with the paths that were counted. -/
namespace TextGen.Markov

namespace Trie

/-- The counts of all paths but the empty one are those of the function. -/
def Counts (trie : Trie) (f : List String → Nat) : Prop :=
  ∀ w, w ≠ [] → trie.count? w = if f w = 0 then none else some (f w)

/-- The paths to the branches, in the order in which the branches are written out. -/
def paths : Trie → List (List String)
  | empty => []
  | branch token _ below beside => [token] :: below.paths.map (token :: ·) ++ beside.paths

/- One insertion. -/

theorem count?_insert (v w : List String) (nonempty : w ≠ []) (trie : Trie) :
    (trie.insert v).count? w =
      if w <+: v then some ((trie.count? w).getD 0 + 1) else trie.count? w := by
  induction v generalizing w trie with
  | nil => rw [if_neg (by simpa using nonempty)]; rfl
  | cons x v ih =>
    match w with
    | [token] =>
      rw [count?_singleton, insert, child?_hit]
      by_cases same : x = token
      · subst same
        rw [if_pos rfl, if_pos (by simp), count?_singleton]
        cases trie.child? x <;> rfl
      · rw [if_neg same, if_neg (by simpa using Ne.symm same)]
        rfl
    | token :: next :: w =>
      rw [count?_cons_cons, insert, child?_hit]
      by_cases same : x = token
      · subst same
        have tail := ih (next :: w) (List.cons_ne_nil _ _)
        rw [if_pos rfl, count?_cons_cons]
        simp only [List.cons_prefix_cons, true_and]
        cases h : trie.child? x with
        | none =>
          simp only [Option.bind_some, Option.bind_none, tail, count?_empty]
        | some node => exact tail node.2
      · rw [if_neg same, if_neg (by simp [Ne.symm same])]
        rfl

theorem counts_empty : Counts empty fun _ => 0 := fun w _ => count?_empty w

theorem counts_insert (trie : Trie) (f : List String → Nat) (h : trie.Counts f)
    (v : List String) :
    (trie.insert v).Counts fun w => f w + if w <+: v then 1 else 0 := by
  intro w nonempty
  rw [count?_insert v w nonempty, h w nonempty]
  by_cases reached : w <+: v
  · simp only [if_pos reached, Nat.add_eq_zero_iff, Nat.one_ne_zero, and_false, if_false]
    by_cases zero : f w = 0
    · simp [zero]
    · simp [zero]
  · simp only [if_neg reached, Nat.add_zero]

theorem counts_insertWindows (n : Nat) (batch : List String) (trie : Trie)
    (f : List String → Nat) (h : trie.Counts f) :
    (trie.insertWindows n batch).Counts fun w =>
      f w + if w.length ≤ n then placesIn w batch else 0 := by
  induction batch generalizing trie f with
  | nil => simpa [insertWindows] using h
  | cons token batch ih =>
    have later := ih _ _ (counts_insert trie f h ((token :: batch).take n))
    intro w nonempty
    rw [insertWindows, later w nonempty]
    simp only [placesIn_cons, List.prefix_take_iff]
    by_cases short : w.length ≤ n
    · simp only [short, and_true, if_true, Nat.add_assoc]
    · simp only [short, and_false, if_false, Nat.add_zero]

theorem counts_insertBatches (n : Nat) (batches : List (List String)) (trie : Trie)
    (f : List String → Nat) (h : trie.Counts f) :
    (trie.insertBatches n batches).Counts fun w =>
      f w + if w.length ≤ n then places w batches else 0 := by
  induction batches generalizing trie f with
  | nil => simpa [insertBatches] using h
  | cons batch rest ih =>
    have later := ih _ _ (counts_insertWindows n batch trie f h)
    intro w nonempty
    rw [insertBatches, later w nonempty]
    simp only [places_cons]
    by_cases short : w.length ≤ n
    · simp only [short, if_true, Nat.add_assoc]
    · simp only [short, if_false, Nat.add_zero]

theorem proper_insertBatches (n : Nat) (batches : List (List String)) (trie : Trie)
    (h : Proper trie) : Proper (trie.insertBatches n batches) := by
  induction batches generalizing trie with
  | nil => exact h
  | cons batch rest ih => exact ih _ (proper_insertWindows n batch trie h)

theorem passes_insertWindows_le (n : Nat) (batch : List String) (trie : Trie) :
    (trie.insertWindows n batch).passes ≤ trie.passes + batch.length := by
  induction batch generalizing trie with
  | nil => exact Nat.le_refl _
  | cons token batch ih =>
    have first := passes_insert_le ((token :: batch).take n) trie
    have rest := ih (trie.insert ((token :: batch).take n))
    rw [insertWindows, List.length_cons]
    omega

theorem passes_insertBatches_le (n : Nat) (texts : List (List String)) (trie : Trie) :
    (trie.insertBatches n texts).passes ≤ trie.passes + tokenCount texts := by
  induction texts generalizing trie with
  | nil => exact Nat.le_refl _
  | cons batch rest ih =>
    have first := passes_insertWindows_le n batch trie
    have later := ih (trie.insertWindows n batch)
    simp only [tokenCount, List.map_cons, List.sum_cons] at later ⊢
    rw [insertBatches]
    omega

/- The branches of a proper tree. -/

theorem length_paths (trie : Trie) : trie.paths.length = trie.size := by
  induction trie with
  | empty => rfl
  | branch token count below beside ihBelow ihBeside =>
    simp only [paths, size, List.length_append, List.length_cons, List.length_map, ihBelow,
      ihBeside]
    omega

theorem child?_of_mem_paths (trie : Trie) (w : List String) (h : w ∈ trie.paths) :
    ∃ token rest, w = token :: rest ∧ (trie.child? token).isSome := by
  induction trie with
  | empty => cases h
  | branch t count below beside _ ih =>
    simp only [paths, List.cons_append, List.mem_cons, List.mem_append, List.mem_map] at h
    rcases h with rfl | ⟨rest, _, rfl⟩ | h
    · exact ⟨t, [], rfl, by simp [child?_branch]⟩
    · exact ⟨t, rest, rfl, by simp [child?_branch]⟩
    · obtain ⟨token, rest, rfl, known⟩ := ih h
      refine ⟨token, rest, rfl, ?_⟩
      rw [child?_branch]
      split
      · rfl
      · exact known

theorem not_mem_paths_of_child?_eq_none (trie : Trie) (token : String)
    (h : trie.child? token = none) (rest : List String) : token :: rest ∉ trie.paths := by
  intro mem
  obtain ⟨_, _, same, known⟩ := child?_of_mem_paths trie _ mem
  cases same
  simp [h] at known

theorem nil_not_mem_paths (trie : Trie) : [] ∉ trie.paths := by
  intro mem
  obtain ⟨_, _, same, _⟩ := child?_of_mem_paths trie _ mem
  cases same

theorem nodup_paths (trie : Trie) (h : Proper trie) : trie.paths.Nodup := by
  induction h with
  | empty => exact List.nodup_nil
  | @branch t count below beside new _ _ _ _ ihBelow ihBeside =>
    have besideFree := not_mem_paths_of_child?_eq_none beside t new
    have injective : Function.Injective (t :: · : List String → List String) :=
      fun _ _ same => (List.cons.inj same).2
    refine List.nodup_append'.mpr ⟨List.nodup_cons.mpr ⟨?_, ihBelow.map injective⟩, ihBeside, ?_⟩
    · intro mem
      obtain ⟨rest, inside, same⟩ := List.mem_map.mp mem
      cases (List.cons.inj same).2
      exact nil_not_mem_paths below inside
    · intro w mem outside
      rcases List.mem_cons.mp mem with rfl | mem
      · exact besideFree [] outside
      · obtain ⟨rest, _, rfl⟩ := List.mem_map.mp mem
        exact besideFree rest outside

theorem mem_paths_iff (trie : Trie) (h : Proper trie) (w : List String) :
    w ∈ trie.paths ↔ (trie.count? w).isSome := by
  induction h generalizing w with
  | empty => simp [paths, count?_empty]
  | @branch t count below beside new _ _ _ _ ihBelow ihBeside =>
    have besideFree := not_mem_paths_of_child?_eq_none beside t new
    match w with
    | [] => simp [count?, nil_not_mem_paths]
    | [token] =>
      by_cases same : t = token
      · subst same
        simp [paths, child?_branch]
      · have beside := ihBeside [token]
        simp [paths, child?_branch, same, Ne.symm same] at beside ⊢
        exact beside
    | token :: next :: w =>
      by_cases same : t = token
      · subst same
        have inside := ihBelow (next :: w)
        simp [paths, count?_cons_cons, child?_branch, besideFree, inside]
      · have outside := ihBeside (token :: next :: w)
        simp [paths, count?_cons_cons, child?_branch, same, Ne.symm same] at outside ⊢
        exact outside

end Trie

/- The tree of a trained model. -/

variable (n : Nat) (pos : 0 < n) (t : Tokenizer) (loads : List Load)

theorem proper_trained : (trained n pos t loads).trie.Proper := by
  rw [trie_trained]
  exact Trie.proper_insertBatches n _ _ .empty

theorem passes_trained_le : (trained n pos t loads).trie.passes ≤ tokenCount (batches t loads) := by
  have h := Trie.passes_insertBatches_le n (batches t loads) .empty
  rw [trie_trained]
  exact h.trans (Nat.le_of_eq (Nat.zero_add _))

theorem counts_trained :
    (trained n pos t loads).trie.Counts fun w =>
      if w.length ≤ n then places w (batches t loads) else 0 := by
  have h := Trie.counts_insertBatches n (batches t loads) _ _ Trie.counts_empty
  simp only [Nat.zero_add] at h
  rw [trie_trained]
  exact h

theorem count?_trained (w : List String) (nonempty : w ≠ []) (short : w.length ≤ n) :
    (trained n pos t loads).trie.count? w =
      if places w (batches t loads) = 0 then none else some (places w (batches t loads)) := by
  have h := counts_trained n pos t loads w nonempty
  simp only [if_pos short] at h
  exact h

theorem isSome_count?_trained (w : List String) :
    ((trained n pos t loads).trie.count? w).isSome ↔ IsWindow n (batches t loads) w := by
  by_cases nonempty : w = []
  · subst nonempty
    simp [IsWindow, Trie.count?]
  · rw [IsWindow, ← places_pos_iff w nonempty]
    by_cases short : w.length ≤ n
    · rw [count?_trained n pos t loads w nonempty short]
      by_cases none : places w (batches t loads) = 0
      · simp [none]
      · simp [none, short, nonempty, Nat.pos_of_ne_zero none]
    · rw [counts_trained n pos t loads w nonempty]
      simp [short]

/-- A tree has one branch for every window of the batches. A path of at most `n` tokens can be
followed if it stands in a batch, and its count is the number of places at which it does; no longer
path can be followed. No count exceeds the number of tokens. -/
structure CountsWindows (trie : Trie) (n : Nat) (batches : List (List String)) : Prop where
  branches : trie.paths.Nodup ∧ trie.paths.length = trie.size
  windows : ∀ w, w ∈ trie.paths ↔ IsWindow n batches w
  short : ∀ w, 1 ≤ w.length → w.length ≤ n →
    ((trie.walk? w).isSome ↔ ∃ batch ∈ batches, w <:+: batch) ∧
    ((trie.walk? w).isSome → trie.count? w = some (places w batches))
  long : ∀ w, n < w.length → trie.walk? w = none
  bounded : ∀ w count, trie.count? w = some count → count ≤ tokenCount batches

theorem trie_trained_counts_windows :
    CountsWindows (trained n pos t loads).trie n (batches t loads) := by
  let trie := (trained n pos t loads).trie
  let texts := batches t loads
  have proper : trie.Proper := proper_trained n pos t loads
  have counted : ∀ w, (trie.count? w).isSome ↔ IsWindow n texts w :=
    isSome_count?_trained n pos t loads
  have exact : ∀ w count, trie.count? w = some count → count = places w texts := by
    intro w count found
    have window := (counted w).mp (found ▸ rfl)
    have h := count?_trained n pos t loads w window.1 window.2.1
    rw [found] at h
    split at h
    · cases h
    · exact Option.some.inj h
  refine ⟨⟨Trie.nodup_paths trie proper, Trie.length_paths trie⟩, fun w => ?_,
    fun w long short => ?_, fun w long => ?_, fun w count found => ?_⟩
  · rw [Trie.mem_paths_iff trie proper, counted]
  · have nonempty : w ≠ [] := List.ne_nil_of_length_pos long
    rw [Trie.isSome_walk? w nonempty]
    constructor
    · rw [counted]
      exact ⟨fun h => h.2.2, fun h => ⟨nonempty, short, h⟩⟩
    · intro known
      obtain ⟨count, found⟩ := Option.isSome_iff_exists.mp known
      rw [found, exact w count found]
  · have nonempty : w ≠ [] := List.ne_nil_of_length_pos (Nat.lt_of_le_of_lt (Nat.zero_le n) long)
    rw [← Option.not_isSome_iff_eq_none, Trie.isSome_walk? w nonempty, counted]
    exact fun h => absurd h.2.1 (Nat.not_le_of_lt long)
  · rw [exact w count found]
    exact places_le_tokenCount w texts

theorem trie_trained_counts_windows_of_two_loads :
    let loads : List Load := [.sentences ["a b a.", "b a"], .tokens ["b", "a", "<s/>"]]
    0 < 3 ∧ (trained 3 (by decide) .plain loads).trie.count? ["b", "a"] = some 3 := by
  intro loads
  have known := (trie_trained_counts_windows 3 (by decide) .plain loads).short ["b", "a"]
    (by decide) (by decide)
  have stands : ∃ batch ∈ batches .plain loads, ["b", "a"] <:+: batch := by decide +kernel
  have three : places ["b", "a"] (batches .plain loads) = 3 := by decide +kernel
  refine ⟨by decide, ?_⟩
  rw [known.2 (known.1.mpr stands), three]

end TextGen.Markov
