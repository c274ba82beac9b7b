import Mathlib
import TextGen.Proofs.Lexicon.RandomWords
import TextGen.Proofs.Word.Growing

/-! The length of a random word.
The bounds for the length are compared with the word as it stands in the table, and it is inflected
after that. So a returned word lies within the bounds if its form does, and by the regular rules the
form of a verb is at most four characters too long, and too short only if it is `has`. -/
namespace TextGen.Lexicon

variable {l : Lexicon} {o : SearchOptions} {t : Table} {f : Word.Morphology} {word pos : String}

theorem grows_conjugated (regular : word ≠ "have" ∨ pos ≠ "vbz") :
    Word.Grows word (conjugated .regular word pos) := by
  unfold conjugated
  split
  · exact Word.grows_conjugate (by decide) (.inr (by decide))
  · exact Word.grows_presentParticiple word
  · exact Word.grows_pastParticiple word
  · exact Word.grows_conjugate (by decide) (.inl (regular.resolve_right fun other => other rfl))
  · exact Word.grows_conjugate (by decide) (.inr (by decide))

theorem grows_wantedForm (singular : o.pos ≠ some "nns") (word : String) :
    Word.Grows word (wantedForm .regular o word) ∨ wantedForm .regular o word = "has" := by
  rw [wantedForm]
  split
  · exact .inl (Word.grows_self word)
  · rename_i pos asked
    have other : pos ≠ "nns" := fun same => singular (same ▸ asked)
    rw [formFor, if_neg other]
    split
    · -- The one irregular verb, in the one form that is irregular.
      by_cases irregular : word = "have" ∧ pos = "vbz"
      · obtain ⟨rfl, rfl⟩ := irregular
        exact .inr (by decide +kernel)
      · exact .inl (grows_conjugated (not_and_or.mp irregular))
    · exact .inl (Word.grows_self word)

/-- Plurals and the forms of verbs are asked for by their own tags; other words are returned as they
stand. -/
def SearchOptions.Inflects (o : SearchOptions) : Prop :=
  ∃ pos, o.pos = some pos ∧
    (pos = "nns" ∨ pos.toList.head? = some 'v' ∧ 2 < pos.utf8ByteSize)

theorem wantedForm_of_plain (plain : ¬ o.Inflects) : wantedForm f o word = word := by
  rw [wantedForm]
  split
  · rfl
  · rename_i pos asked
    have singular : pos ≠ "nns" := fun same => plain ⟨pos, asked, .inl same⟩
    rw [formFor, if_neg singular, if_neg fun verb => plain ⟨pos, asked, .inr verb⟩]

theorem exists_eligible (holds : l.table = some t) {r : Run} {w : String}
    (found : (l.randomWord o r).1 = .ok w) :
    ∃ item ∈ t, Eligible l.morphology o item ∧ w = wantedForm l.morphology o item.1 := by
  rcases exists_answer_randomWord holds o r with ⟨_, fails⟩ | ⟨item, first, answered⟩
  · cases fails.symm.trans found
  · obtain ⟨j, _, here, eligible, _⟩ := first
    exact ⟨item, List.mem_of_getElem? here, eligible, Except.ok.inj (found.symm.trans answered)⟩

theorem exists_found (holds : l.table = some t) (few : t.length ≤ UInt64.size)
    {item : String × Entry} (mem : item ∈ t) (eligible : Eligible l.morphology o item) :
    ∃ r, (l.randomWord o r).1 = .ok (wantedForm l.morphology o item.1) := by
  obtain ⟨i, inside, rfl⟩ := List.getElem_of_mem mem
  obtain ⟨r, start⟩ := exists_start few inside
  exact ⟨r, answer_of_start holds inside eligible start⟩

/-- The words returned all lie within the bounds exactly if the wanted forms of the eligible words do,
and so if no other form is asked for. Forms of verbs by the regular rules are at most four characters
too long, and only `has` can be too short. -/
theorem random_word_spans_iff (holds : l.table = some t) (few : t.length ≤ UInt64.size)
    (o : SearchOptions) :
    ((∀ r w, (l.randomWord o r).1 = .ok w → o.Spans w) ↔
      ∀ item ∈ t, Eligible l.morphology o item → o.Spans (wantedForm l.morphology o item.1)) ∧
    (¬ o.Inflects → ∀ r w, (l.randomWord o r).1 = .ok w → o.Spans w) ∧
    (l.morphology = .regular → o.pos ≠ some "nns" → ∀ r w, (l.randomWord o r).1 = .ok w →
      (o.minLength.getD 4 ≤ w.length ∨ w = "has") ∧
        ∀ most, o.maxLength = some most → w.length ≤ most + 4) := by
  refine ⟨⟨fun all item mem eligible => ?_, fun all r w found => ?_⟩, fun plain r w found => ?_,
    fun regular singular r w found => ?_⟩
  · obtain ⟨r, found⟩ := exists_found holds few mem eligible
    exact all r _ found
  · obtain ⟨item, mem, eligible, rfl⟩ := exists_eligible holds found
    exact all item mem eligible
  · obtain ⟨item, _, eligible, rfl⟩ := exists_eligible holds found
    rw [wantedForm_of_plain plain]
    exact eligible.spans
  · obtain ⟨item, _, eligible, rfl⟩ := exists_eligible holds found
    obtain ⟨long, short⟩ := eligible.spans
    rw [regular]
    rcases grows_wantedForm singular item.1 with ⟨atLeast, atMost⟩ | has
    · refine ⟨.inl (long.trans atLeast), fun most set => ?_⟩
      have fits := short most set
      omega
    · have three : "has".length = 3 := by decide
      rw [has, three]
      exact ⟨.inr rfl, fun most _ => by omega⟩

theorem random_word_spans_iff_of_walk :
    let walk : String × Entry := ("walk", ⟨"w-ao1-k", "vb nn"⟩)
    let l : Lexicon := { table := some [walk] }
    let o (most : Nat) : SearchOptions := { pos := some "vbz", maxLength := some most }
    (l.table = some [walk] ∧ [walk].length ≤ UInt64.size) ∧
      (∀ r w, (l.randomWord (o 5) r).1 = .ok w → (o 5).Spans w) ∧
      (¬ ∀ r w, (l.randomWord (o 4) r).1 = .ok w → (o 4).Spans w) ∧
      (∀ r w, (l.randomWord (o 4) r).1 = .ok w → w.length ≤ 8) ∧
      ∀ r w, (l.randomWord {} r).1 = .ok w → ({} : SearchOptions).Spans w := by
  intro walk l o
  have few : [walk].length ≤ UInt64.size := by decide
  have walks (most : Nat) : wantedForm l.morphology (o most) "walk" = "walks" := by
    change wantedForm .regular { pos := some "vbz" } "walk" = "walks"
    decide +kernel
  refine ⟨⟨rfl, few⟩, ?_, fun all => ?_, fun r w found => ?_, ?_⟩
  · refine (random_word_spans_iff (l := l) rfl few (o 5)).1.mpr fun item mem _ => ?_
    rw [List.mem_singleton.mp mem, walks]
    refine ⟨by decide, ?_⟩
    rintro _ ⟨⟩
    decide
  · have eligible : Eligible l.morphology (o 4) walk := form?_ne_none_iff.mp (by decide +kernel)
    have spans := (random_word_spans_iff (l := l) rfl few (o 4)).1.mp all walk
      (List.mem_singleton_self walk) eligible
    rw [walks] at spans
    exact absurd (spans.2 4 rfl) (by decide)
  · exact ((random_word_spans_iff (l := l) rfl few (o 4)).2.2 rfl (by decide) r w found).2 4 rfl
  · refine (random_word_spans_iff (l := l) rfl few {}).2.1 ?_
    rintro ⟨_, ⟨⟩, _⟩

/-- The third person of `have` is shorter than the least length. -/
theorem not_all_random_words_span :
    ¬ ∀ (l : Lexicon) (t : Table) (o : SearchOptions) (r : Run) (w : String),
      l.table = some t → (l.randomWord o r).1 = .ok w → o.Spans w := by
  intro all
  let have_ : String × Entry := ("have", ⟨"hh-ae1-v", "vb"⟩)
  let l : Lexicon := { table := some [have_] }
  let o : SearchOptions := { pos := some "vbz" }
  have eligible : Eligible l.morphology o have_ := form?_ne_none_iff.mp (by decide +kernel)
  have has : wantedForm l.morphology o "have" = "has" := by decide +kernel
  obtain ⟨r, found⟩ := exists_found (l := l) (t := [have_]) rfl (by decide)
    (List.mem_singleton_self have_) eligible
  have claimed := (all l _ o r _ rfl found).1
  rw [has] at claimed
  exact absurd claimed (by decide)

end TextGen.Lexicon
