import Mathlib
import TextGen.Lexicon.Sound
import TextGen.Proofs.Lexicon.Collecting
import TextGen.Proofs.Lexicon.Tails
import TextGen.Proofs.Text.Occurrences
import TextGen.Proofs.Unicode.LowerCase

/-! The list of rhymes and the test for a rhyme.
The list holds the words that end with the whole stressed tail of the given word, the test compares
rhyme parts alone. A listed word passes the test if the given word bears stress. A word that passes
need not be listed, unless the stressed tail is no longer than the rhyme part. -/
namespace TextGen.Lexicon

variable {l : Lexicon} {t : Table} {w c : String} {e f : Entry}

theorem sameLetters_iff (lower : Unicode.lowercase w = w) (lower' : Unicode.lowercase c = c) :
    sameLetters w c = true ↔ w = c := by
  rw [sameLetters, decide_eq_true_eq, Unicode.map_toLower_of_lowercase lower,
    Unicode.map_toLower_of_lowercase lower', String.toList_inj]

namespace Lowercased

theorem rhymes_eq (held : l.Lowercased t) (mem : (w, e) ∈ t) (o : SearchOptions) (r : Run) :
    l.rhymes w o r =
      (.ok (t.others w o (Text.endsWith · (stressedTail e.phones.toList))), l, r) := by
  have found := held.phones? mem
  have lower : Unicode.lowercase w = w := held.lower (w, e) mem
  simp only [rhymes, ask_of_table held.table, Table.rhymes, lower, found]

theorem isRhyme_eq (held : l.Lowercased t) (mem : (w, e) ∈ t) (mem' : (c, f) ∈ t) (other : w ≠ c)
    (different : e.phones ≠ f.phones) (named : c ≠ "") (r : Run) :
    l.isRhyme w c r =
      (.ok (w ≠ "" ∧ rhymePart e.phones.toList = rhymePart f.phones.toList), l, r) := by
  have letters : ¬ sameLetters w c = true := fun same =>
    other ((sameLetters_iff (held.lower (w, e) mem) (held.lower (c, f) mem')).mp same)
  have phones : e.phones.toList ≠ f.phones.toList := fun same =>
    different (String.toList_inj.mp same)
  by_cases empty : w = ""
  · simp [isRhyme, empty]
  · simp [isRhyme, empty, named, letters, ask_of_table held.table, Table.isRhyme, held.phones? mem,
      held.phones? mem', phones, beq_eq_decide]

end Lowercased

/-- How the list of the rhymes of a word and the test of the word with another one compare. `p` and
`q` are the pronunciations of the two words. -/
structure RhymesCompared (word : String) (p q : List Char) (listed passes : Prop) : Prop where
  listed_iff : listed ↔ stressedTail p <:+ q
  passes_iff : passes ↔ word ≠ "" ∧ rhymePart p = rhymePart q
  /-- If the word bears stress, the list and the test differ in tails with the same rhyme part. -/
  agree_iff : word ≠ "" → '1' ∈ p →
    ((listed ↔ passes) ↔ (rhymePart p = rhymePart q → stressedTail p = stressedTail q))
  passes_of_listed : word ≠ "" → '1' ∈ p → listed → passes
  listed_of_passes : stressedTail p = rhymePart p → passes → listed
  /-- What is listed passes unless its last syllable has another first vowel letter. -/
  passes_iff_of_listed : word ≠ "" → listed →
    ∃ more, lastSyllable (stressedTail q) = more ++ lastSyllable (stressedTail p) ∧
      (passes ↔ more = [] ∨ ((∀ d ∈ more, Word.isVowel d = false) ∧
        ∃ d ∈ lastSyllable (stressedTail p), Word.isVowel d = true))

theorem rhymesCompared {word : String} {p q : List Char}
    (whole : stressedTail p <:+ q → EndsAtPhoneme (stressedTail p) q) :
    RhymesCompared word p q (stressedTail p <:+ q) (word ≠ "" ∧ rhymePart p = rhymePart q) := by
  have tails : '1' ∈ p → stressedTail p <:+ q → stressedTail p = stressedTail q :=
    fun stressed ends => (stressedTail_of_endsAtPhoneme stressed (whole ends)).symm
  have parts : stressedTail p = stressedTail q → rhymePart p = rhymePart q := by
    intro same
    rw [rhymePart_eq, rhymePart_eq, same]
  constructor
  case listed_iff => exact Iff.rfl
  case passes_iff => exact Iff.rfl
  case agree_iff =>
    intro named stressed
    constructor
    · intro agree same
      exact tails stressed (agree.mpr ⟨named, same⟩)
    · intro longer
      refine ⟨fun ends => ⟨named, parts (tails stressed ends)⟩, fun passes => ?_⟩
      rw [longer passes.2]
      exact stressedTail_suffix q
  case passes_of_listed => exact fun named stressed ends => ⟨named, parts (tails stressed ends)⟩
  case listed_of_passes =>
    rintro short ⟨_, same⟩
    rw [short, same]
    exact rhymePart_suffix q
  case passes_iff_of_listed =>
    intro named ends
    obtain ⟨more, goes⟩ := lastSyllable_suffix_of_suffix (suffix_stressedTail ends)
    refine ⟨more, goes.symm, ?_⟩
    rw [← fromVowel_append_iff, goes, ← rhymePart_eq, ← rhymePart_eq]
    exact (and_iff_right named).trans eq_comm

/-- With the default options, a word of at least three characters is in the list of rhymes exactly if
its pronunciation ends with the stressed tail, and passes the test exactly if it has the rhyme
part. -/
theorem rhymes_compared_with_isRhyme (held : l.Lowercased t) (mem : (w, e) ∈ t)
    (mem' : (c, f) ∈ t) (other : w ≠ c) (different : e.phones ≠ f.phones) (long : 3 ≤ c.length)
    (whole : stressedTail e.phones.toList <:+ f.phones.toList →
      EndsAtPhoneme (stressedTail e.phones.toList) f.phones.toList) (r : Run) :
    ∃ words answer, l.rhymes w {} r = (.ok words, l, r) ∧ l.isRhyme w c r = (.ok answer, l, r) ∧
      RhymesCompared w e.phones.toList f.phones.toList (c ∈ words) (answer = true) := by
  have named : c ≠ "" := by
    rintro rfl
    simp at long
  refine ⟨_, _, held.rhymes_eq mem {} r, held.isRhyme_eq mem mem' other different named r, ?_⟩
  have listed : c ∈ t.others w {} (Text.endsWith · (stressedTail e.phones.toList)) ↔ _ :=
    Table.mem_others_iff held.loaded.pairwise mem'
  rw [Text.endsWith_iff] at listed
  simp only [listed, ne_eq, Ne.symm other, not_false_eq_true, long, true_and, decide_eq_true_eq]
  exact rhymesCompared whole

/-- The last stress of `guitar` is in the last syllable, on a phoneme that begins with a vowel
letter. -/
theorem rhymes_compared_with_isRhyme_of_final_stress :
    let p := "g-ih t-aa1-r"
    let q := "s-t-aa1-r"
    let t : Table := [("doctor", ⟨"d-aa1-k t-er", "nn"⟩), ("guitar", ⟨p, "nn"⟩), ("star", ⟨q, "nn"⟩)]
    let l : Lexicon := { table := some t }
    (l.Lowercased t ∧ ("guitar", ⟨p, "nn"⟩) ∈ t ∧ ("star", ⟨q, "nn"⟩) ∈ t ∧ "guitar" ≠ "star" ∧
      p ≠ q ∧ 3 ≤ "star".length ∧ EndsAtPhoneme (stressedTail p.toList) q.toList) ∧
      ∀ r, ∃ words answer, l.rhymes "guitar" {} r = (.ok words, l, r) ∧
        l.isRhyme "guitar" "star" r = (.ok answer, l, r) ∧ ("star" ∈ words ↔ answer = true) := by
  intro p q t l
  have held : l.Lowercased t := ⟨rfl, Table.loaded_of_pairwise (by decide), by decide +kernel⟩
  have mem : ("guitar", ⟨p, "nn"⟩) ∈ t := by decide
  have mem' : ("star", ⟨q, "nn"⟩) ∈ t := by decide
  have different : p ≠ q := by decide
  have whole : EndsAtPhoneme (stressedTail p.toList) q.toList :=
    ⟨['s', '-', 't', '-'], by decide +kernel, by simp [isBoundary]⟩
  refine ⟨⟨held, mem, mem', by decide, different, by decide, whole⟩, fun r => ?_⟩
  obtain ⟨words, answer, listed, tested, compared⟩ := rhymes_compared_with_isRhyme held mem mem'
    (by decide) different (by decide) (fun _ => whole) r
  refine ⟨words, answer, listed, tested, ?_, ?_⟩
  · exact compared.passes_of_listed (by decide) (by decide +kernel)
  · exact compared.listed_of_passes (by decide +kernel)

/-- The last syllables of `mother` and `sister` are alike from the vowel on, their stressed tails are
not. -/
theorem not_all_rhymes_agree :
    ¬ ∀ (l : Lexicon) (t : Table) (w c : String) (e f : Entry) (r : Run), l.Lowercased t →
      (w, e) ∈ t → (c, f) ∈ t → w ≠ c → e.phones ≠ f.phones → 3 ≤ c.length →
      Agree (l.rhymes w {} r).1 (l.isRhyme w c r).1 c := by
  intro all
  let t : Table := [("mother", ⟨"m-ah1 dh-er", "nn"⟩), ("sister", ⟨"s-ih1 s-t-er", "nn"⟩)]
  let l : Lexicon := { table := some t }
  have held : l.Lowercased t := ⟨rfl, Table.loaded_of_pairwise (by decide), by decide +kernel⟩
  have none : (l.rhymes "mother" {} default).1 = .ok [] := by decide +kernel
  have passes : (l.isRhyme "mother" "sister" default).1 = .ok true := by decide +kernel
  have agree := all l t "mother" "sister" _ _ default held List.mem_cons_self
    (List.mem_cons_of_mem _ List.mem_cons_self) (by decide) (by decide) (by decide)
  rw [none, passes] at agree
  exact not_agree_of_nil "sister" agree

end TextGen.Lexicon
