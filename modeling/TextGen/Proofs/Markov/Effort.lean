import Mathlib
import TextGen.Markov.Generate

/-! What a generator gives notice of, in all.
Every refusal gives a notice. If an extension refuses no more than a certain number of tokens, then
a call refuses no more than its attempts and the tokens of an attempt allow. -/
namespace TextGen.Markov

variable (m : Markov) (o : Options) (limit : Option Nat) (c : Nat)

def RefusesAtMost : Prop :=
  ∀ tokens r, (m.extend? limit tokens r).2.notices.length ≤ r.notices.length + c

variable {m o limit c}

theorem notices_fill (cheap : m.RefusesAtMost limit c) (missing : Nat) (tokens : List String)
    (r : Run) :
    (m.fill limit missing tokens r).2.notices.length ≤ r.notices.length + missing * c := by
  induction missing generalizing tokens r with
  | zero => exact Nat.le_add_right _ _
  | succ missing ih =>
    have first := cheap tokens r
    rw [fill, Nat.succ_mul]
    split
    · rename_i r₁ extended
      simp only [extended] at first
      exact first.trans (by omega)
    · rename_i token r₁ extended
      simp only [extended] at first
      have rest := ih (tokens ++ [token]) r₁
      omega

theorem notices_fillUntil (cheap : m.RefusesAtMost limit c) (test : String → Bool) (room : Nat)
    (tokens : List String) (r : Run) :
    (m.fillUntil limit test room tokens r).2.notices.length ≤ r.notices.length + room * c := by
  induction room generalizing tokens r with
  | zero => exact Nat.le_add_right _ _
  | succ room ih =>
    have first := cheap tokens r
    rw [fillUntil, Nat.succ_mul]
    split
    · rename_i r₁ extended
      simp only [extended] at first
      exact first.trans (by omega)
    · rename_i token r₁ extended
      simp only [extended] at first
      split
      · exact first.trans (by omega)
      · have rest := ih (tokens ++ [token]) r₁
        omega

theorem notices_startTokens (trie : Trie) (r : Run) :
    (m.startTokens o trie r).2.notices = r.notices := by
  rw [startTokens]
  split
  · rfl
  · split <;> rfl

theorem notices_tokensFrom (cheap : m.RefusesAtMost o.maxLengthMatch c) (num left : Nat)
    (r : Run) :
    (m.tokensFrom num o left r).2.notices.length ≤ r.notices.length + left * (num * c) := by
  induction left generalizing r with
  | zero => exact Nat.le_add_right _ _
  | succ left ih =>
    have begun := notices_startTokens (m := m) (o := o) m.trie r
    rw [tokensFrom, Nat.succ_mul]
    split
    · rename_i r₁ failed
      simp only [failed] at begun
      rw [begun]
      exact Nat.le_add_right _ _
    · rename_i start r₁ started
      simp only [started] at begun
      have filled := notices_fill cheap (num - start.length) start r₁
      have shorter := Nat.mul_le_mul_right c (Nat.sub_le num start.length)
      rw [begun] at filled
      split
      · rename_i tokens r₂ done
        simp only [done] at filled
        exact filled.trans (by omega)
      · rename_i r₂ failed
        simp only [failed] at filled
        have rest := ih r₂
        omega

theorem notices_generateTokens (cheap : m.RefusesAtMost o.maxLengthMatch c) (num : Nat) (r : Run) :
    (m.generateTokens num o r).2.notices.length ≤
      r.notices.length + attempts * (num * c) := by
  simp only [generateTokens]
  split
  · exact Nat.le_add_right _ _
  · split
    · exact Nat.le_add_right _ _
    · exact notices_tokensFrom cheap num attempts r

theorem notices_untilFrom (free : m.RefusesAtMost none 0)
    (cheap : m.RefusesAtMost o.maxLengthMatch c) (test : String → Bool) (seedLength left : Nat)
    (r : Run) :
    (m.untilFrom test seedLength o left r).2.notices.length ≤
      r.notices.length + left * (o.maxLength * c) := by
  induction left generalizing r with
  | zero => exact Nat.le_add_right _ _
  | succ left ih =>
    have seeded := notices_generateTokens (o := { startTokens := o.startTokens }) free seedLength r
    rw [Nat.mul_zero, Nat.mul_zero] at seeded
    rw [untilFrom, Nat.succ_mul]
    split
    · rename_i r₁ failed
      simp only [failed] at seeded
      exact seeded.trans (by omega)
    · rename_i seed r₁ generated
      simp only [generated] at seeded
      have filled :=
        notices_fillUntil cheap test (o.maxLength - seed.length) seed r₁
      have shorter := Nat.mul_le_mul_right c (Nat.sub_le o.maxLength seed.length)
      split
      · rename_i tokens r₂ done
        simp only [done] at filled
        exact filled.trans (by omega)
      · rename_i r₂ failed
        simp only [failed] at filled
        have rest := ih r₂
        omega

theorem notices_generateUntil (free : m.RefusesAtMost none 0)
    (cheap : m.RefusesAtMost o.maxLengthMatch c) (test : String → Bool) (r : Run) :
    (m.generateUntil test o r).2.notices.length ≤
      r.notices.length + attempts * (o.maxLength * c) :=
  notices_untilFrom free cheap test _ attempts r

/- Sentences give a notice of their own for each one that is skipped. -/

theorem notices_sentence? (before tokens : List String) (r : Run) :
    (m.sentence? before tokens r).2.notices.length ≤ r.notices.length + 1 := by
  simp only [sentence?]
  split
  · exact Nat.le_succ _
  · split
    · exact Nat.le_refl _
    · split
      · exact Nat.le_succ _
      · split
        · exact Nat.le_refl _
        · exact Nat.le_succ _

theorem notices_attemptSentence (cheap : m.RefusesAtMost o.maxLengthMatch c)
    (before start : List String) (r : Run) :
    (m.attemptSentence o before start r).2.notices.length ≤
      r.notices.length + (o.maxLength * c + 1) := by
  have filled :=
    notices_fillUntil cheap Token.endsSentence (o.maxLength - start.length) start r
  have shorter := Nat.mul_le_mul_right c (Nat.sub_le o.maxLength start.length)
  simp only [attemptSentence]
  split
  · rename_i r₁ failed
    simp only [failed] at filled
    exact filled.trans (by omega)
  · rename_i tokens r₁ done
    simp only [done] at filled
    split
    · exact filled.trans (by omega)
    · have judged := notices_sentence? (m := m) before tokens r₁
      exact judged.trans (by omega)

theorem notices_sentenceStart (starts : Trie) (r : Run) :
    (m.sentenceStart o starts r).2.notices = r.notices := by
  have begun := notices_startTokens (m := m) (o := o) starts r
  rw [sentenceStart]
  split
  · rename_i r₁ none
    simp only [none] at begun
    exact begun
  · exact begun

theorem notices_of_attempt (cheap : m.RefusesAtMost o.maxLengthMatch c) {starts : Trie}
    {before start : List String} {text : Option String} {r r₁ r₂ : Run}
    (begun : m.sentenceStart o starts r = (.ok start, r₁))
    (tried : m.attemptSentence o before start r₁ = (text, r₂)) :
    r₂.notices.length ≤ r.notices.length + (o.maxLength * c + 1) := by
  have started := notices_sentenceStart (m := m) (o := o) starts r
  have attempted := notices_attemptSentence cheap before start r₁
  simp only [begun] at started
  simp only [tried, started] at attempted
  exact attempted

theorem notices_sentencesFrom (cheap : m.RefusesAtMost o.maxLengthMatch c) (starts : Trie)
    (num missing spare : Nat) (before : List String) (r : Run) :
    (m.sentencesFrom num o starts missing spare before r).2.notices.length ≤
      r.notices.length + ((missing + spare + 1) * (o.maxLength * c + 1) + 1) := by
  induction missing, spare, before, r using sentencesFrom.induct m o starts with
  | case1 spare before r =>
    rw [sentencesFrom]
    exact Nat.le_add_right _ _
  | case2 spare before r fewer e r₁ failed =>
    have begun := notices_sentenceStart (m := m) (o := o) starts r
    simp only [failed] at begun
    rw [sentencesFrom, failed]
    simp only [begun]
    exact Nat.le_add_right _ _
  | case3 spare before r fewer start r₁ begun text r₂ accepted ih =>
    have attempted := notices_of_attempt cheap begun accepted
    rw [sentencesFrom, begun]
    simp only [accepted]
    rw [Nat.add_right_comm fewer 1 spare, Nat.succ_mul (fewer + spare + 1)]
    exact ih.trans (by omega)
  | case4 before r fewer start r₁ begun r₂ refused =>
    have attempted := notices_of_attempt cheap begun refused
    rw [sentencesFrom, begun]
    simp only [refused, Run.note, List.length_cons]
    rw [Nat.succ_mul]
    exact Nat.succ_le_succ attempted |>.trans (by omega)
  | case5 before r fewer start r₁ begun r₂ refused spare ih =>
    have attempted := notices_of_attempt cheap begun refused
    rw [sentencesFrom, begun]
    simp only [refused]
    rw [← Nat.add_assoc (fewer + 1) spare 1, Nat.succ_mul (fewer + 1 + spare + 1)]
    exact ih.trans (by omega)

theorem notices_generateSentences (cheap : m.RefusesAtMost o.maxLengthMatch c) (num : Nat)
    (r : Run) :
    (m.generateSentences num o r).2.notices.length ≤
      r.notices.length + ((num + attempts) * (o.maxLength * c + 1) + 1) := by
  rw [generateSentences]
  split
  · exact Nat.le_add_right _ _
  · rename_i starts _
    exact notices_sentencesFrom cheap starts num num (attempts - 1) [] r

end TextGen.Markov
