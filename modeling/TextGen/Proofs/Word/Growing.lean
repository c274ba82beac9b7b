import Mathlib
import TextGen.Word.Morphology

/-! How much longer the forms of verbs are.
By the regular rules a form has at most four characters more than the verb, and none has fewer but the
third person of `have`. -/
namespace TextGen.Word

/-- The form is no shorter than the word and at most four characters longer. -/
def Grows (word form : String) : Prop :=
  word.length ≤ form.length ∧ form.length ≤ word.length + 4

theorem grows_self (word : String) : Grows word word := ⟨le_rfl, Nat.le_add_right _ _⟩

theorem grows_append (word : String) {ending : String} (short : ending.length ≤ 4) :
    Grows word (word ++ ending) := by
  rw [Grows, String.length_append]
  omega

theorem grows_replace {word ending : String} {stem : List Char} (lost : Nat)
    (parts : stem.length + lost = word.length) (long : lost ≤ ending.length)
    (short : ending.length ≤ lost + 4) : Grows word (String.ofList stem ++ ending) := by
  rw [Grows, String.length_append, String.length_ofList]
  omega

theorem length_dropEnding? {ending : String} {word stem : List Char}
    (dropped : dropEnding? ending word = some stem) :
    stem.length + ending.length = word.length := by
  unfold dropEnding? at dropped
  dsimp only at dropped
  split at dropped
  · rename_i ends
    have fits := (List.isPrefixOf_iff_prefix.mp ends).length_le
    cases dropped
    simp only [List.length_reverse, List.length_drop, String.length_toList] at fits ⊢
    omega
  · cases dropped

theorem grows_presentParticiple (verb : String) : Grows verb (presentParticiple verb) := by
  unfold presentParticiple
  dsimp only
  split
  · rename_i stem dropped
    exact grows_replace _ (length_dropEnding? dropped) (by decide) (by decide)
  · split
    · exact grows_append verb (by decide)
    · split
      · rename_i dropped
        exact grows_replace _ (length_dropEnding? dropped) (by decide) (by decide)
      · split
        · rw [String.append_assoc]
          have ing : "ing".length = 3 := by decide
          apply grows_append
          cases verb.toList.getLast? <;> simp [ing]
        · exact grows_append verb (by decide)

theorem grows_pastParticiple (verb : String) : Grows verb (pastParticiple verb) := by
  have letters : verb.toList.reverse.length = verb.length := by
    rw [List.length_reverse, String.length_toList]
  unfold pastParticiple
  dsimp only
  split
  · rename_i empty
    rw [empty] at letters
    simp [Grows, ← letters]
  · exact grows_append verb (by decide)
  · rename_i last rest _ spelled
    rw [spelled] at letters
    split
    · split
      · exact grows_append verb (by decide)
      · refine grows_replace 1 ?_ (by decide) (by decide)
        rw [List.length_reverse]
        exact letters
    · split
      · have doubled : (String.singleton last ++ "ed").length ≤ 4 := by
          rw [String.length_append, String.length_singleton]
          decide
        rw [String.append_assoc]
        exact grows_append verb doubled
      · exact grows_append verb (by decide)

theorem grows_thirdPerson {verb : String} (regular : verb ≠ "have") :
    Grows verb (thirdPerson verb) := by
  have letters : verb.toList.reverse.length = verb.length := by
    rw [List.length_reverse, String.length_toList]
  unfold thirdPerson
  rw [if_neg regular]
  split
  · rename_i be
    rw [be]
    exact ⟨by decide, by decide⟩
  · split
    · rename_i before rest spelled
      rw [spelled] at letters
      split
      · exact grows_append verb (by decide)
      · refine grows_replace 1 ?_ (by decide) (by decide)
        rw [List.length_reverse]
        exact letters
    · split
      · exact grows_append verb (by decide)
      · split <;> exact grows_append verb (by decide)
    · rename_i spelled
      rw [spelled] at letters
      rw [Grows, ← letters]
      decide

theorem grows_conjugate {verb : String} {form : Conjugation} (now : form.tense ≠ .future)
    (regular : verb ≠ "have" ∨ form.person ≠ .third) : Grows verb (conjugate verb form) := by
  unfold conjugate
  split
  · rename_i empty
    rw [empty]
    exact grows_self ""
  · split
    · exact grows_pastParticiple verb
    · rename_i future
      exact absurd future now
    · split
      · rename_i third
        exact grows_thirdPerson (regular.resolve_right fun other => other third.2)
      · exact grows_self verb

end TextGen.Word
