import Mathlib
import TextGen.Proofs.Markov.Counting

/-! What is counted below a path.
The total below a path is the number of places of the batches at which the path stands and a word
follows it. For the empty path it is the number of words, so the size of a model is the length of
its input exactly if no marker was loaded among tokens. -/
namespace TextGen.Markov

/-- Whether the tokens begin with a path and a word after it. -/
def wordFollows : List String → List String → Bool
  | [], [] => false
  | [], token :: _ => token ≠ marker
  | _ :: _, [] => false
  | step :: path, token :: tokens => step = token && wordFollows path tokens

/-- The number of places of a batch at which a path stands and a word follows it. -/
def followedIn (path batch : List String) : Nat := batch.tails.countP (wordFollows path)

/-- The number of such places of all batches. -/
def followed (path : List String) (batches : List (List String)) : Nat :=
  (batches.map (followedIn path)).sum

theorem wordFollows_nil (path : List String) : wordFollows path [] = false := by
  cases path <;> rfl

theorem wordFollows_iff (path tokens : List String) :
    wordFollows path tokens = true ↔ ∃ word, word ≠ marker ∧ path ++ [word] <+: tokens := by
  fun_induction wordFollows path tokens with
  | case1 => simp
  | case2 token rest => simp
  | case3 => simp
  | case4 step path token tokens ih => simp [ih, ← exists_and_left, and_left_comm]

theorem wordFollows_take (n : Nat) (path tokens : List String) (short : path.length < n) :
    wordFollows path (tokens.take n) = wordFollows path tokens := by
  rw [Bool.eq_iff_iff, wordFollows_iff, wordFollows_iff]
  refine exists_congr fun word => and_congr_right fun _ => ?_
  rw [List.prefix_take_iff, List.length_append]
  exact and_iff_left short

theorem followedIn_nil (path : List String) : followedIn path [] = 0 := by
  simp [followedIn, wordFollows_nil]

theorem followedIn_cons (path : List String) (token : String) (batch : List String) :
    followedIn path (token :: batch) =
      (if wordFollows path (token :: batch) then 1 else 0) + followedIn path batch := by
  rw [followedIn, List.tails_cons, List.countP_cons, Nat.add_comm]
  rfl

theorem placesIn_le_followedIn (path : List String) {word : String} (other : word ≠ marker)
    (batch : List String) : placesIn (path ++ [word]) batch ≤ followedIn path batch := by
  induction batch with
  | nil => exact Nat.zero_le _
  | cons token batch ih =>
    rw [placesIn_cons, followedIn_cons]
    by_cases here : path ++ [word] <+: token :: batch
    · rw [if_pos here, if_pos ((wordFollows_iff _ _).mpr ⟨word, other, here⟩)]
      omega
    · rw [if_neg here]
      omega

theorem places_le_followed (path : List String) {word : String} (other : word ≠ marker)
    (batches : List (List String)) : places (path ++ [word]) batches ≤ followed path batches := by
  induction batches with
  | nil => exact Nat.le_refl _
  | cons batch rest ih =>
    have here := placesIn_le_followedIn path other batch
    simp only [places_cons, followed, List.map_cons, List.sum_cons] at ih ⊢
    omega

theorem followedIn_nil_path (batch : List String) :
    followedIn [] batch = (batch.filter (· ≠ marker)).length := by
  induction batch with
  | nil => rfl
  | cons token batch ih =>
    rw [followedIn_cons, ih, List.filter_cons]
    by_cases word : token = marker
    · simp [wordFollows, word]
    · simp [wordFollows, word, Nat.add_comm]

namespace Trie

/- The total of a tree. -/

@[simp] theorem total_empty : total .empty = 0 := rfl

theorem foldl_counts (entries : List (String × Nat)) (start : Nat) :
    entries.foldl (fun sum (_, count) => sum + count) start =
      start + entries.foldl (fun sum (_, count) => sum + count) 0 := by
  induction entries generalizing start with
  | nil => rfl
  | cons entry entries ih =>
    rw [List.foldl_cons, List.foldl_cons, ih, ih (0 + entry.2), Nat.zero_add, Nat.add_assoc]

theorem total_branch (token : String) (count : Nat) (below beside : Trie) :
    (branch token count below beside).total =
      (if token = marker then 0 else count) + beside.total := by
  by_cases word : token = marker
  · simp [total, words, entries, word]
  · simp only [total, words, entries, if_neg word]
    rw [List.filter_cons_of_pos (by simp [word]), List.foldl_cons, foldl_counts, Nat.zero_add]

theorem total_hit (token : String) (grow : Trie → Trie) (trie : Trie) :
    (trie.hit token grow).total = trie.total + if token = marker then 0 else 1 := by
  induction trie with
  | empty => simp [hit, total_branch]
  | branch t count below beside _ ih =>
    rw [hit]
    by_cases same : t = token
    · subst same
      rw [if_pos rfl, total_branch, total_branch]
      split <;> omega
    · rw [if_neg same, total_branch, total_branch, ih, Nat.add_assoc]

/-- The total of the tree below a path, and none for a path that cannot be followed. -/
def totalBelow (path : List String) (trie : Trie) : Nat := ((trie.walk? path).map total).getD 0

theorem totalBelow_nil (trie : Trie) : trie.totalBelow [] = trie.total := rfl

theorem totalBelow_cons (token : String) (path : List String) (trie : Trie) :
    trie.totalBelow (token :: path) =
      ((trie.child? token).map fun node => node.2.totalBelow path).getD 0 := by
  rw [totalBelow, walk?]
  cases trie.child? token <;> rfl

theorem totalBelow_empty (path : List String) : Trie.empty.totalBelow path = 0 := by
  cases path <;> rfl

/- Insertions add the places that are followed by a word. -/

theorem totalBelow_insert (path w : List String) (trie : Trie) :
    (trie.insert w).totalBelow path =
      trie.totalBelow path + if wordFollows path w then 1 else 0 := by
  induction w generalizing path trie with
  | nil => simp [insert, wordFollows_nil]
  | cons token w ih =>
    cases path with
    | nil =>
      rw [insert, totalBelow_nil, totalBelow_nil, total_hit]
      by_cases word : token = marker <;> simp [wordFollows, word]
    | cons step path =>
      rw [insert, totalBelow_cons, totalBelow_cons, child?_hit]
      by_cases same : token = step
      · subst same
        rw [if_pos rfl]
        cases trie.child? token with
        | none => simp [ih, totalBelow_empty, wordFollows]
        | some node => simp [ih, wordFollows]
      · simp [same, Ne.symm same, wordFollows]

theorem totalBelow_insertWindows (n : Nat) (path : List String) (short : path.length < n)
    (batch : List String) (trie : Trie) :
    (trie.insertWindows n batch).totalBelow path =
      trie.totalBelow path + followedIn path batch := by
  induction batch generalizing trie with
  | nil => simp [insertWindows, followedIn_nil]
  | cons token batch ih =>
    rw [insertWindows, ih, totalBelow_insert, wordFollows_take n path _ short, followedIn_cons,
      Nat.add_assoc]

theorem totalBelow_insertBatches (n : Nat) (path : List String) (short : path.length < n)
    (batches : List (List String)) (trie : Trie) :
    (trie.insertBatches n batches).totalBelow path =
      trie.totalBelow path + followed path batches := by
  induction batches generalizing trie with
  | nil => rfl
  | cons batch rest ih =>
    rw [insertBatches, ih, totalBelow_insertWindows n path short, followed, followed, List.map_cons,
      List.sum_cons, Nat.add_assoc]

end Trie

/- Trained models. -/

variable (n : Nat) (pos : 0 < n) (t : Tokenizer) (loads : List Load)

theorem totalBelow_trained (path : List String) (short : path.length < n) :
    (trained n pos t loads).trie.totalBelow path = followed path (batches t loads) := by
  rw [trie_trained, Trie.totalBelow_insertBatches n path short, Trie.totalBelow_empty,
    Nat.zero_add]

theorem filter_kept (l : Load) :
    (l.kept t).filter (· ≠ marker) = (l.batch t).filter (· ≠ marker) := by
  cases l with
  | tokens _ => rfl
  | sentences _ => simp [Load.kept, Load.batch]
  | text _ => simp [Load.kept, Load.batch]

theorem size_trained :
    (trained n pos t loads).size = ((trained n pos t loads).input.filter (· ≠ marker)).length := by
  rw [size, ← Trie.totalBelow_nil, totalBelow_trained n pos t loads [] pos, input_trained]
  induction loads with
  | nil => rfl
  | cons l loads ih =>
    rw [List.flatMap_cons, List.filter_append, List.length_append, filter_kept, ← ih,
      ← followedIn_nil_path]
    rfl

theorem marker_mem_kept_iff (l : Load) :
    marker ∈ l.kept t ↔ ∃ ts, l = .tokens ts ∧ marker ∈ ts := by
  cases l with
  | tokens ts => simp [Load.kept]
  | sentences _ => simp [Load.kept]
  | text _ => simp [Load.kept]

/-- The input is free of markers, and as long as the number of words that were counted, exactly if
no loaded list of tokens holds a marker; sentences and texts never bring one in. Whatever was loaded,
the size is the number of words of the input, and no larger than the number of tokens counted. -/
theorem input_unmarked_iff (n : Nat) (pos : 0 < n) (t : Tokenizer) (loads : List Load) :
    let m := trained n pos t loads
    let unmarked := ∀ ts, Load.tokens ts ∈ loads → marker ∉ ts
    (marker ∉ m.input ↔ unmarked) ∧ (m.size = m.input.length ↔ unmarked) ∧
      m.size = (m.input.filter (· ≠ marker)).length ∧ m.size ≤ tokenCount (batches t loads) := by
  intro m unmarked
  have size : m.size = (m.input.filter (· ≠ marker)).length := size_trained n pos t loads
  have free : marker ∉ m.input ↔ unmarked := by
    have kept : m.input = loads.flatMap (Load.kept t) := input_trained n pos t loads
    rw [kept, List.mem_flatMap]
    constructor
    · intro absent ts mem inside
      exact absent ⟨_, mem, (marker_mem_kept_iff t _).mpr ⟨ts, rfl, inside⟩⟩
    · rintro clean ⟨l, mem, inside⟩
      obtain ⟨ts, rfl, here⟩ := (marker_mem_kept_iff t l).mp inside
      exact clean ts mem here
  refine ⟨free, ?_, size, ?_⟩
  · rw [size, List.length_filter_eq_length_iff, ← free]
    constructor
    · intro words mem
      exact of_decide_eq_true (words marker mem) rfl
    · intro absent token mem
      exact decide_eq_true fun same => absent (same ▸ mem)
  · have whole : m.size = followed [] (batches t loads) :=
      totalBelow_trained n pos t loads [] pos
    rw [whole, followed, tokenCount]
    refine List.sum_le_sum fun batch _ => ?_
    rw [followedIn_nil_path]
    exact List.length_filter_le _ _

theorem input_unmarked_of_mixed_loads :
    let loads : List Load := [.sentences ["<s/> a.", "b"], .text "c. d", .tokens ["e", "a"]]
    let m := trained 2 (by decide) .plain loads
    0 < 2 ∧ (∀ ts, Load.tokens ts ∈ loads → marker ∉ ts) ∧ marker ∉ m.input ∧
      m.size = m.input.length ∧ m.size = 8 := by
  intro loads m
  have unmarked : ∀ ts, Load.tokens ts ∈ loads → marker ∉ ts := by
    intro ts mem
    have only : ts = ["e", "a"] := by simpa [loads] using mem
    rw [only]
    decide
  obtain ⟨free, length, _, _⟩ := input_unmarked_iff 2 (by decide) .plain loads
  refine ⟨by decide, unmarked, free.mpr unmarked, length.mpr unmarked, ?_⟩
  decide +kernel

/-- Tokens are kept as they are loaded, and the marker is not counted among them. -/
theorem loaded_marker_is_kept :
    ¬ ∀ (n : Nat) (pos : 0 < n) (t : Tokenizer) (loads : List Load),
      marker ∉ (trained n pos t loads).input ∧
        (trained n pos t loads).size = (trained n pos t loads).input.length := by
  intro all
  have clean := all 2 (by decide) .plain [.tokens ["<s/>", "a"]]
  exact clean.1 (by decide +kernel)

end TextGen.Markov
