import Mathlib
import TextGen.Lexicon.Entry
import TextGen.Proofs.Text.Runs

/-! Ends of pronunciations.
The stressed tail begins where the phoneme of the last stress does. Its last syllable without the
consonants in front is the rhyme part. An end of a pronunciation that holds this phoneme as a whole
has the same tail; any other end that is a stressed tail is an end of the tail at least. -/
namespace TextGen.Lexicon

open TextGen.Text (takeWhileEnd)

/-- What stands between phonemes. -/
def isBoundary (c : Char) : Bool := c = '-' || c = ' '

/-- A pronunciation, cut before the phoneme that bears the last stress and behind the mark of it. -/
structure StressedAt (phones front phoneme after : List Char) : Prop where
  whole : phones = front ++ (phoneme ++ '1' :: after)
  starts : ∀ c ∈ front.getLast?, isBoundary c = true
  inside : ∀ c ∈ phoneme, isBoundary c = false
  last : '1' ∉ after

variable {phones front phoneme after p q : List Char}

theorem exists_phoneme (text : List Char) :
    ∃ front phoneme, text = front ++ phoneme ∧ (∀ c ∈ front.getLast?, isBoundary c = true) ∧
      ∀ c ∈ phoneme, isBoundary c = false := by
  let solid (c : Char) : Bool := !isBoundary c
  refine ⟨text.rdropWhile solid, text.rtakeWhile solid, ?_, ?_, ?_⟩
  · rw [List.rdropWhile_append_rtakeWhile]
  · intro c final
    obtain ⟨some_, rfl⟩ := List.mem_getLast?_eq_getLast final
    simpa [solid] using List.rdropWhile_last_not solid _ some_
  · intro c mem
    simpa [solid] using List.mem_rtakeWhile_imp mem

theorem exists_stressedAt (stressed : '1' ∈ phones) :
    ∃ front phoneme after, StressedAt phones front phoneme after := by
  obtain ⟨late, early, turned, last⟩ :=
    List.eq_append_cons_of_mem (List.mem_reverse.mpr stressed)
  have whole := congrArg List.reverse turned
  rw [List.reverse_reverse, List.reverse_append, List.reverse_cons, List.append_assoc,
    List.singleton_append] at whole
  obtain ⟨front, phoneme, before, starts, inside⟩ := exists_phoneme early.reverse
  exact ⟨front, phoneme, late.reverse, by rw [whole, before, List.append_assoc], starts, inside,
    fun mem => last (List.mem_reverse.mp mem)⟩

theorem StressedAt.stressedTail_eq (cut : StressedAt phones front phoneme after) :
    stressedTail phones = phoneme ++ '1' :: after := by
  have split : phones = (front ++ phoneme ++ ['1']) ++ after := by
    rw [cut.whole]
    simp
  have behind : takeWhileEnd (· ≠ '1') phones = after := by
    rw [split, Text.takeWhileEnd_append_of_all _ (Text.all_ne_of_not_mem cut.last),
      Text.takeWhileEnd_eq_rtakeWhile, List.rtakeWhile_concat_neg _ _ _ (by decide),
      List.nil_append]
  have before : phones.take (phones.length - after.length) = front ++ phoneme ++ ['1'] := by
    rw [split, List.length_append, Nat.add_sub_cancel, List.take_left]
  have solid : ∀ c ∈ phoneme.reverse, (decide (c ≠ '-') && decide (c ≠ ' ')) = true := by
    intro c mem
    have inner := cut.inside c (List.mem_reverse.mp mem)
    simpa [isBoundary] using inner
  have stops : front.rtakeWhile (fun c => decide (c ≠ '-') && decide (c ≠ ' ')) = [] := by
    refine List.rtakeWhile_eq_nil_iff.mpr fun some_ => ?_
    have boundary := cut.starts _ (List.getLast?_eq_some_getLast some_)
    simpa [isBoundary, or_iff_not_imp_left] using boundary
  rw [stressedTail]
  simp only [behind, before, List.reverse_append, List.reverse_singleton, List.singleton_append]
  rw [List.takeWhile_append_of_pos solid, List.reverse_eq_nil_iff.mp stops, List.append_nil,
    List.reverse_reverse]

theorem stressedTail_of_unstressed (unstressed : '1' ∉ phones) : stressedTail phones = phones := by
  have whole : takeWhileEnd (· ≠ '1') phones = phones :=
    List.rtakeWhile_eq_self_iff.mpr (Text.all_ne_of_not_mem unstressed)
  rw [stressedTail]
  simp only [whole, Nat.sub_self, List.take_zero, List.reverse_nil]

theorem stressedTail_suffix (phones : List Char) : stressedTail phones <:+ phones := by
  by_cases stressed : '1' ∈ phones
  · obtain ⟨front, phoneme, after, cut⟩ := exists_stressedAt stressed
    exact ⟨front, by rw [cut.stressedTail_eq, cut.whole]⟩
  · rw [stressedTail_of_unstressed stressed]

/- Ends that are stressed tails. -/

/-- An end of a pronunciation that begins with a whole phoneme. -/
def EndsAtPhoneme (tail phones : List Char) : Prop :=
  ∃ front, phones = front ++ tail ∧ ∀ c ∈ front.getLast?, isBoundary c = true

theorem StressedAt.of_endsAtPhoneme (cut : StressedAt p front phoneme after)
    (ends : EndsAtPhoneme (stressedTail p) q) : ∃ other, StressedAt q other phoneme after := by
  obtain ⟨other, whole, starts⟩ := ends
  rw [cut.stressedTail_eq] at whole
  exact ⟨other, whole, starts, cut.inside, cut.last⟩

theorem stressedTail_of_endsAtPhoneme (stressed : '1' ∈ p)
    (ends : EndsAtPhoneme (stressedTail p) q) : stressedTail q = stressedTail p := by
  obtain ⟨front, phoneme, after, cut⟩ := exists_stressedAt stressed
  obtain ⟨other, same⟩ := cut.of_endsAtPhoneme ends
  rw [same.stressedTail_eq, cut.stressedTail_eq]

theorem suffix_stressedTail_of_stressed (stressed : '1' ∈ p) (ends : stressedTail p <:+ q) :
    stressedTail p <:+ stressedTail q := by
  obtain ⟨front, phoneme, after, cut⟩ := exists_stressedAt stressed
  obtain ⟨other, whole⟩ := ends
  rw [cut.stressedTail_eq] at whole ⊢
  -- the phoneme may go on to the left in the longer pronunciation
  obtain ⟨rest, more, rfl, starts, inner⟩ := exists_phoneme other
  have longer : StressedAt q rest (more ++ phoneme) after := by
    refine ⟨by rw [← whole, List.append_assoc, List.append_assoc], starts, ?_, cut.last⟩
    intro c mem
    rcases List.mem_append.mp mem with left | right
    · exact inner c left
    · exact cut.inside c right
  rw [longer.stressedTail_eq, List.append_assoc]
  exact List.suffix_append _ _

theorem suffix_stressedTail_of_unstressed (unstressed : '1' ∉ p) (ends : p <:+ q) :
    p <:+ stressedTail q := by
  by_cases stressed : '1' ∈ q
  · obtain ⟨front, phoneme, after, cut⟩ := exists_stressedAt stressed
    have behind : '1' :: after <:+ q := ⟨front ++ phoneme, by rw [cut.whole, List.append_assoc]⟩
    have short : p.length ≤ after.length := by
      by_contra long
      have mark := List.suffix_of_suffix_length_le behind ends (by
        rw [List.length_cons]
        omega)
      exact unstressed (mark.subset List.mem_cons_self)
    have inside := List.suffix_of_suffix_length_le ends ((List.suffix_cons _ _).trans behind) short
    rw [cut.stressedTail_eq]
    exact (inside.trans (List.suffix_cons _ _)).trans (List.suffix_append _ _)
  · rwa [stressedTail_of_unstressed stressed]

theorem suffix_stressedTail (ends : stressedTail p <:+ q) : stressedTail p <:+ stressedTail q := by
  by_cases stressed : '1' ∈ p
  · exact suffix_stressedTail_of_stressed stressed ends
  · rw [stressedTail_of_unstressed stressed] at ends ⊢
    exact suffix_stressedTail_of_unstressed stressed ends

/- The rhyme part. -/

def lastSyllable (phones : List Char) : List Char := takeWhileEnd (· ≠ ' ') phones

/-- A syllable without what stands before its first vowel letter, if it has one. -/
def fromVowel (syllable : List Char) : List Char :=
  match syllable.dropWhile (!Word.isVowel ·) with
  | [] => syllable
  | vowel => vowel

theorem rhymePart_eq (phones : List Char) :
    rhymePart phones = fromVowel (lastSyllable (stressedTail phones)) := rfl

theorem fromVowel_of_none {syllable : List Char}
    (none : syllable.dropWhile (!Word.isVowel ·) = []) : fromVowel syllable = syllable := by
  rw [fromVowel, none]

theorem fromVowel_of_vowel {syllable : List Char}
    (some_ : syllable.dropWhile (!Word.isVowel ·) ≠ []) :
    fromVowel syllable = syllable.dropWhile (!Word.isVowel ·) := by
  rw [fromVowel]
  split
  · contradiction
  · rfl

theorem fromVowel_suffix (syllable : List Char) : fromVowel syllable <:+ syllable := by
  unfold fromVowel
  split
  · exact List.suffix_rfl
  · exact List.dropWhile_suffix _

theorem rhymePart_suffix (phones : List Char) : rhymePart phones <:+ phones :=
  (fromVowel_suffix _).trans
    ((List.rtakeWhile_suffix (· ≠ ' ') _).trans (stressedTail_suffix phones))

theorem lastSyllable_suffix_of_suffix (ends : p <:+ q) : lastSyllable p <:+ lastSyllable q := by
  obtain ⟨front, rfl⟩ := ends
  by_cases single : ' ' ∈ p
  · rw [lastSyllable, lastSyllable, Text.takeWhileEnd_append_of_stop front single (by decide)]
  · have all := Text.all_ne_of_not_mem single
    rw [lastSyllable, lastSyllable, Text.takeWhileEnd_append_of_all front all]
    have whole : takeWhileEnd (· ≠ ' ') p = p := List.rtakeWhile_eq_self_iff.mpr all
    rw [whole]
    exact List.suffix_append _ _

/-- A longer syllable has the same end from the first vowel letter on exactly if its first vowel
letter is the same. -/
theorem fromVowel_append_iff (more syllable : List Char) :
    fromVowel (more ++ syllable) = fromVowel syllable ↔
      more = [] ∨ ((∀ c ∈ more, Word.isVowel c = false) ∧ ∃ c ∈ syllable, Word.isVowel c = true) := by
  by_cases plain : ∀ c ∈ more, Word.isVowel c = false
  · have passed : (more ++ syllable).dropWhile (!Word.isVowel ·) =
        syllable.dropWhile (!Word.isVowel ·) :=
      List.dropWhile_append_of_pos (by simpa using plain)
    by_cases vowel : ∃ c ∈ syllable, Word.isVowel c = true
    · have some_ : syllable.dropWhile (!Word.isVowel ·) ≠ [] := by
        simpa [List.dropWhile_eq_nil_iff] using vowel
      rw [fromVowel_of_vowel some_, fromVowel_of_vowel (passed ▸ some_), passed]
      exact iff_of_true rfl (.inr ⟨plain, vowel⟩)
    · have none : syllable.dropWhile (!Word.isVowel ·) = [] := by
        simpa [List.dropWhile_eq_nil_iff] using vowel
      rw [fromVowel_of_none none, fromVowel_of_none (passed.trans none)]
      simp [vowel]
  · have some_ : more.dropWhile (!Word.isVowel ·) ≠ [] := by
      simpa [List.dropWhile_eq_nil_iff] using plain
    have kept : (more ++ syllable).dropWhile (!Word.isVowel ·) =
        more.dropWhile (!Word.isVowel ·) ++ syllable := by
      rw [List.dropWhile_append, if_neg (by simpa using some_)]
    have longer : fromVowel (more ++ syllable) ≠ fromVowel syllable := by
      rw [fromVowel_of_vowel (by simp [kept, some_]), kept]
      intro same
      have length := congrArg List.length same
      have first := List.length_pos_iff.mpr some_
      have whole := (fromVowel_suffix syllable).length_le
      rw [List.length_append] at length
      omega
    refine iff_of_false longer ?_
    rintro (none | ⟨all, _⟩)
    · exact some_ (by simp [none])
    · exact plain all

end TextGen.Lexicon
