import Mathlib
import TextGen.Proofs.EditDistance.Rows
import TextGen.Proofs.Lexicon.Collecting
import TextGen.Proofs.Lexicon.Nearest
import TextGen.Proofs.Unicode.LowerTwice

/-! Similar words.
The words compared with a given one are those of the right length and number of syllables that are
neither the word nor one of its regular plurals, in lower case. Without a limit the similar words
are the nearest of these, in their letters or in their phonemes. -/
namespace TextGen.Lexicon

open EditDistance (levenshtein)

def Compared (t : Table) (word : String) (o : SearchOptions) (c : String) (e : Entry) : Prop :=
  (c, e) ∈ t ∧ o.accepts 3 c e = true ∧
    c ∉ [Unicode.lowercase word, Unicode.lowercase word ++ "s", Unicode.lowercase word ++ "es"]

/-- The word is one of those at the smallest distance from `word`, from 1 and the least distance
on. -/
def IsNearest (t : Table) (word : String) (o : SearchOptions) (distance : String → Entry → Nat)
    (c : String) : Prop :=
  ∃ e, Compared t word o c e ∧
    IsLeast {d | max 1 o.minDistance ≤ d ∧ ∃ c' e', Compared t word o c' e' ∧ distance c' e' = d}
      (distance c e)

def letterDistance (word : String) (c : String) (_ : Entry) : Nat :=
  levenshtein (Unicode.lowercase word).toList c.toList

def soundDistance (entry : Entry) (_ : String) (e : Entry) : Nat :=
  levenshtein (phonemes entry.phones.toList) (phonemes e.phones.toList)

/-- The words with a property, each once and in order. -/
def Lists (words : List String) (property : String → Prop) : Prop :=
  words.Pairwise (· < ·) ∧ ∀ c, c ∈ words ↔ property c

variable {t : Table} {word c : String} {o : SearchOptions} {e : Entry}

theorem mem_candidates_iff :
    (c, e) ∈ t.candidates (Unicode.lowercase word) o ↔ Compared t word o c e := by
  rw [Table.candidates, List.mem_filter, Bool.and_eq_true, Bool.not_eq_true', ← Bool.not_eq_true,
    List.contains_iff_mem]
  rfl

theorem lists_nearest (sorted : t.Pairwise (·.1 < ·.1)) (distance : String → Entry → Nat) :
    Lists (nearest distance (max o.minDistance 1) none {}
      (t.candidates (Unicode.lowercase word) o)).words.reverse (IsNearest t word o distance) := by
  constructor
  · exact pairwise_nearest (sorted.filter _)
  · intro c
    rw [mem_nearest_iff]
    simp only [mem_candidates_iff]
    have same : distances distance (max o.minDistance 1)
        (t.candidates (Unicode.lowercase word) o) =
        {d | max 1 o.minDistance ≤ d ∧ ∃ c' e', Compared t word o c' e' ∧ distance c' e' = d} := by
      ext d
      simp only [distances, Set.mem_ofPred_eq, Prod.exists, mem_candidates_iff, max_comm]
    rw [same]
    rfl

theorem distance_units (a b : List (List Char)) :
    EditDistance.distance a b = levenshtein a b := by
  rw [← EditDistance.distance_eq_levenshtein]
  congr 1
  exact lawful_beq_subsingleton _ _

theorem similar_letters (t : Table) (word : String) (o : SearchOptions) :
    t.similar word o .letters = (nearest (letterDistance word) (max o.minDistance 1) o.limit {}
      (t.candidates (Unicode.lowercase word) o)).words.reverse := by
  have distance : letterDistance word = fun w e => EditDistance.distance
      (Similarity.letters.units (Unicode.lowercase word) ⟨"", ""⟩)
      (Similarity.letters.units w e) := by
    funext w e
    rw [distance_units]
    exact (EditDistance.levenshtein_map List.singleton_injective _ _).symm
  rw [distance]
  rfl

theorem similar_sounds (known : t.find? word = some e) (o : SearchOptions) :
    t.similar word o .sounds = (nearest (soundDistance e) (max o.minDistance 1) o.limit {}
      (t.candidates (Unicode.lowercase word) o)).words.reverse := by
  have distance : soundDistance e = fun w f => EditDistance.distance
      (Similarity.sounds.units (Unicode.lowercase word) e) (Similarity.sounds.units w f) := by
    funext w f
    exact (distance_units _ _).symm
  have again : t.find? (Unicode.lowercase word) = some e := by
    rw [Table.find?, Unicode.lowercase_lowercase]
    exact known
  rw [distance, Table.similar]
  simp only [Table.unitsOf?, again]
  rfl

theorem similar_sounds_of_unknown (unknown : t.find? word = none) (o : SearchOptions) :
    t.similar word o .sounds = [] := by
  have again : t.find? (Unicode.lowercase word) = none := by
    rw [Table.find?, Unicode.lowercase_lowercase]
    exact unknown
  rw [Table.similar]
  simp only [Table.unitsOf?, again]
  rfl

theorem lists_letters (sorted : t.Pairwise (·.1 < ·.1)) (free : o.limit = none) :
    Lists (t.similar word o .letters) (IsNearest t word o (letterDistance word)) := by
  rw [similar_letters, free]
  exact lists_nearest sorted _

theorem lists_sounds (sorted : t.Pairwise (·.1 < ·.1)) (free : o.limit = none)
    (known : t.find? word = some e) :
    Lists (t.similar word o .sounds) (IsNearest t word o (soundDistance e)) := by
  rw [similar_sounds known, free]
  exact lists_nearest sorted _

theorem lists_both (sorted : t.Pairwise (·.1 < ·.1)) (word : String) (o : SearchOptions) : ∃ words,
    t.similarInBoth word o = words.take (o.limit.getD words.length) ∧
      Lists words fun c => ∃ e, t.find? word = some e ∧
        IsNearest t word o (soundDistance e) c ∧ IsNearest t word o (letterDistance word) c := by
  let unlimited : SearchOptions := { o with limit := none }
  have letters : Lists (t.similar word unlimited .letters) _ := lists_letters sorted rfl
  refine ⟨(t.similar word unlimited .sounds).filter (t.similar word unlimited .letters).contains,
    ?_, ?_⟩
  · rw [Table.similarInBoth]
    cases o.limit with
    | none => exact List.take_length.symm
    | some n => rfl
  · cases known : t.find? word with
    | none =>
      rw [similar_sounds_of_unknown known unlimited]
      constructor
      · exact .nil
      · simp
    | some e =>
      have sounds : Lists (t.similar word unlimited .sounds) _ := lists_sounds sorted rfl known
      constructor
      · exact sounds.1.filter _
      · intro c
        rw [List.mem_filter, sounds.2, List.contains_iff_mem, letters.2]
        simp only [Option.some.injEq, exists_eq_left']
        rfl

/- Asking a lexicon. -/

theorem find?_eq_getD (l : Lexicon) (word : String) :
    l.find? word = (l.table.getD []).find? word := by
  cases holds : l.table with
  | none => rw [find?, holds]; rfl
  | some t => rw [find?, holds]; rfl

/-- Without a limit the similar words are the nearest ones, of those compared. With the spelling to
match, they are nearest both in their phonemes and in their letters, up to the limit. -/
theorem similar_words_are_nearest {l : Lexicon} (loaded : (l.table.getD []).Loaded)
    (answers : l.fatal = true → l.table.isSome = true) (named : word ≠ "") (o : SearchOptions)
    (r : Run) :
    (o.limit = none → ∃ words, (l.spellsLike word o r).1 = .ok words ∧
      Lists words (IsNearest (l.table.getD []) word o (letterDistance word))) ∧
    (o.limit = none → o.matchSpelling = false → ∀ e, l.find? word = some e →
      ∃ words, (l.soundsLike word o r).1 = .ok words ∧
        Lists words (IsNearest (l.table.getD []) word o (soundDistance e))) ∧
    (o.matchSpelling = true → ∃ words,
      (l.soundsLike word o r).1 = .ok (words.take (o.limit.getD words.length)) ∧
        Lists words fun c => ∃ e, l.find? word = some e ∧
          IsNearest (l.table.getD []) word o (soundDistance e) c ∧
          IsNearest (l.table.getD []) word o (letterDistance word) c) := by
  have sorted := loaded.pairwise
  refine ⟨fun free => ?_, fun free plain e known => ?_, fun matched => ?_⟩
  · refine ⟨_, ?_, lists_letters sorted free⟩
    rw [spellsLike, if_neg named, ask_getD answers]
  · rw [find?_eq_getD] at known
    refine ⟨_, ?_, lists_sounds sorted free known⟩
    rw [soundsLike, if_neg named, ask_getD answers, plain]
    rfl
  · obtain ⟨words, both, listed⟩ := lists_both sorted word o
    rw [find?_eq_getD]
    refine ⟨words, ?_, listed⟩
    rw [soundsLike, if_neg named, ask_getD answers, ← both, if_pos matched]

theorem similar_words_are_nearest_to_cat :
    let t : Table := [("bat", ⟨"b-ae1-t", "nn"⟩), ("cat", ⟨"k-ae1-t", "nn"⟩),
      ("cats", ⟨"k-ae1-t-s", "nns"⟩), ("cut", ⟨"k-ah1-t", "vb"⟩), ("kit", ⟨"k-ih1-t", "nn"⟩)]
    let l : Lexicon := { table := some t }
    let matched : SearchOptions := { matchSpelling := true, limit := some 1 }
    ((l.table.getD []).Loaded ∧ (l.fatal = true → l.table.isSome = true) ∧ "Cat" ≠ "") ∧
      ((l.spellsLike "Cat" {} default).1 = .ok ["bat", "cut"] ∧
        Lists ["bat", "cut"] (IsNearest t "Cat" {} (letterDistance "Cat"))) ∧
      ((l.soundsLike "Cat" {} default).1 = .ok ["bat", "cut", "kit"] ∧
        Lists ["bat", "cut", "kit"] (IsNearest t "Cat" {} (soundDistance ⟨"k-ae1-t", "nn"⟩))) ∧
      ∃ words, (l.soundsLike "Cat" matched default).1 = .ok (words.take 1) ∧
        words.take 1 = ["bat"] ∧
        Lists words fun c => ∃ e, l.find? "Cat" = some e ∧
          IsNearest t "Cat" matched (soundDistance e) c ∧
          IsNearest t "Cat" matched (letterDistance "Cat") c := by
  intro t l matched
  have loaded : t.Loaded := Table.loaded_of_pairwise (by decide)
  have answers : l.fatal = true → l.table.isSome = true := fun _ => rfl
  have named : "Cat" ≠ "" := by decide
  have all := similar_words_are_nearest (l := l) loaded answers named {} default
  have spelled : (l.spellsLike "Cat" {} default).1 = .ok ["bat", "cut"] := by decide +kernel
  have sounded : (l.soundsLike "Cat" {} default).1 = .ok ["bat", "cut", "kit"] := by decide +kernel
  have first : (l.soundsLike "Cat" matched default).1 = .ok ["bat"] := by decide +kernel
  refine ⟨⟨loaded, answers, named⟩, ⟨spelled, ?_⟩, ⟨sounded, ?_⟩, ?_⟩
  · obtain ⟨words, answered, listed⟩ := all.1 rfl
    rw [spelled] at answered
    cases answered
    exact listed
  · obtain ⟨words, answered, listed⟩ := all.2.1 rfl rfl ⟨"k-ae1-t", "nn"⟩ (by decide +kernel)
    rw [sounded] at answered
    cases answered
    exact listed
  · obtain ⟨words, answered, listed⟩ :=
      (similar_words_are_nearest (l := l) loaded answers named matched default).2.2 rfl
    refine ⟨words, answered, ?_, listed⟩
    rw [first] at answered
    exact (Except.ok.inj answered).symm

end TextGen.Lexicon
