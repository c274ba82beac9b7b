import Mathlib
import TextGen.Proofs.Lexicon.Collecting

/-! The list of alliterations and the test for an alliteration.
Both compare the onsets of two words. The list is empty for a word that is spelled with a vowel at
the beginning, whatever its onset; the test looks at the onsets alone. -/
namespace TextGen.Lexicon

variable {l : Lexicon} {t : Table} {w c : String} {e f : Entry}

/-- Whether the first letter of a word is there and is no vowel. -/
def startsWithConsonant (word : String) : Bool := word.toList.head?.any (!Word.isVowel ·)

theorem all_isVowel_head? (word : String) :
    word.toList.head?.all Word.isVowel = !startsWithConsonant word := by
  rw [startsWithConsonant]
  cases word.toList.head? with
  | none => rfl
  | some first => simp

/-- Two pronunciations have the same onset. -/
def SharesOnset (p q : List Char) : Prop := ∃ phoneme, onset? p = some phoneme ∧ onset? q = some phoneme

namespace Lowercased

variable (held : l.Lowercased t) (mem : (w, e) ∈ t) (mem' : (c, f) ∈ t)

include held mem mem'

theorem mem_alliterations_iff (other : w ≠ c) (long : 3 ≤ c.length) (r : Run) :
    ∃ words r', l.alliterations w {} r = (.ok words, l, r') ∧
      (c ∈ words ↔ startsWithConsonant w = true ∧ SharesOnset e.phones.toList f.phones.toList) := by
  have found := held.phones? mem
  have lower : Unicode.lowercase w = w := held.lower (w, e) mem
  rw [alliterations, ask_of_table held.table, Table.alliterations]
  simp only [lower, found, all_isVowel_head?, Option.bind_some]
  cases startsWithConsonant w with
  | false => exact ⟨_, _, rfl, by simp⟩
  | true =>
    cases onset : onset? e.phones.toList with
    | none => exact ⟨_, _, rfl, by simp [SharesOnset, onset]⟩
    | some phoneme =>
      have listed : c ∈ t.others w {} (onset? · == some phoneme) ↔ _ :=
        Table.mem_others_iff held.loaded.pairwise mem'
      refine ⟨_, _, rfl, listed.trans ?_⟩
      simp [SharesOnset, onset, other.symm, long]

theorem isAlliteration_iff (named : c ≠ "") (r : Run) :
    ∃ answer, l.isAlliteration w c r = (.ok answer, l, r) ∧
      (answer = true ↔ w ≠ "" ∧ SharesOnset e.phones.toList f.phones.toList ∧
        ∀ phoneme ∈ onset? e.phones.toList, startsWithVowel phoneme = false) := by
  rw [isAlliteration, ask_of_table held.table, Table.isAlliteration]
  simp only [held.phones? mem, held.phones? mem', Option.bind_some]
  refine ⟨_, rfl, ?_⟩
  cases onset : onset? e.phones.toList with
  | none => simp [SharesOnset, onset]
  | some phoneme =>
    cases onset' : onset? f.phones.toList with
    | none => simp [SharesOnset, onset']
    | some phoneme' =>
      by_cases same : phoneme = phoneme'
      · simp [SharesOnset, onset, onset', named, same]
      · simp [SharesOnset, onset, onset', same, Ne.symm same]

end Lowercased

/-- The list is the words that pass the test, if the given word is spelled with a consonant at the
beginning, and else empty. Nothing is said of a word that is spelled with a consonant and pronounced
with a vowel. -/
theorem alliterations_agree_with_isAlliteration (held : l.Lowercased t) (mem : (w, e) ∈ t)
    (mem' : (c, f) ∈ t) (other : w ≠ c) (long : 3 ≤ c.length)
    (consonant : startsWithConsonant w = true →
      ∀ phoneme ∈ onset? e.phones.toList, startsWithVowel phoneme = false) (r : Run) :
    ∃ words answer r', l.alliterations w {} r = (.ok words, l, r') ∧
      l.isAlliteration w c r = (.ok answer, l, r) ∧
      (c ∈ words ↔ startsWithConsonant w = true ∧ answer = true) := by
  have named : c ≠ "" := by
    rintro rfl
    simp at long
  obtain ⟨words, r', listed, mem_iff⟩ := held.mem_alliterations_iff mem mem' other long r
  obtain ⟨answer, tested, answer_iff⟩ := held.isAlliteration_iff mem mem' named r
  refine ⟨words, answer, r', listed, tested, mem_iff.trans (and_congr_right fun starts => ?_)⟩
  have some_ : w ≠ "" := by
    rintro rfl
    cases starts
  rw [answer_iff]
  exact ⟨fun shares => ⟨some_, shares, consonant starts⟩, fun passes => passes.2.1⟩

theorem alliterations_agree_with_isAlliteration_of_inner_onset :
    let e : Entry := ⟨"t-ah b-ae1 k-ow", "nn"⟩
    let f : Entry := ⟨"ah b-aw1-t", "in"⟩
    let t : Table := [("about", f), ("bat", ⟨"b-ae1-t", "nn"⟩), ("tobacco", e)]
    let l : Lexicon := { table := some t }
    (l.Lowercased t ∧ ("tobacco", e) ∈ t ∧ ("about", f) ∈ t ∧ "tobacco" ≠ "about" ∧
      3 ≤ "about".length ∧ (startsWithConsonant "tobacco" = true →
        ∀ phoneme ∈ onset? e.phones.toList, startsWithVowel phoneme = false)) ∧
      ∀ r, ∃ words answer r', l.alliterations "tobacco" {} r = (.ok words, l, r') ∧
        l.isAlliteration "tobacco" "about" r = (.ok answer, l, r) ∧
        ("about" ∈ words ↔ startsWithConsonant "tobacco" = true ∧ answer = true) := by
  intro e f t l
  have held : l.Lowercased t := ⟨rfl, Table.loaded_of_pairwise (by decide), by decide +kernel⟩
  have mem : ("tobacco", e) ∈ t := by decide
  have mem' : ("about", f) ∈ t := by decide
  have onset : onset? e.phones.toList = some ['b'] := by decide +kernel
  have consonant : ∀ phoneme ∈ onset? e.phones.toList, startsWithVowel phoneme = false := by
    rw [onset]
    rintro phoneme ⟨⟩
    decide
  exact ⟨⟨held, mem, mem', by decide, by decide, fun _ => consonant⟩,
    alliterations_agree_with_isAlliteration held mem mem' (by decide) (by decide) fun _ => consonant⟩

/-- No word is listed for `about`, but `about` and `bat` pass the test. -/
theorem not_all_alliterations_agree :
    ¬ ∀ (l : Lexicon) (t : Table) (w c : String) (e f : Entry) (r : Run), l.Lowercased t →
      (w, e) ∈ t → (c, f) ∈ t → w ≠ c → 3 ≤ c.length →
      Agree (l.alliterations w {} r).1 (l.isAlliteration w c r).1 c := by
  intro all
  let t : Table := [("about", ⟨"ah b-aw1-t", "in"⟩), ("bat", ⟨"b-ae1-t", "nn"⟩)]
  let l : Lexicon := { table := some t }
  have held : l.Lowercased t := ⟨rfl, Table.loaded_of_pairwise (by decide), by decide +kernel⟩
  have none : (l.alliterations "about" {} default).1 = .ok [] := by decide +kernel
  have passes : (l.isAlliteration "about" "bat" default).1 = .ok true := by decide +kernel
  have agree := all l t "about" "bat" _ _ default held List.mem_cons_self
    (List.mem_cons_of_mem _ List.mem_cons_self) (by decide) (by decide)
  rw [none, passes] at agree
  exact not_agree_of_nil "bat" agree

end TextGen.Lexicon
