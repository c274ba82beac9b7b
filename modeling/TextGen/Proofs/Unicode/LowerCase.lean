import Mathlib
import TextGen.Unicode.Case

/-! Texts in lower case.
A text that is its own lower-case form holds no capital letter. Its characters are compared with
those of its form one by one, which is possible because no form is empty. -/
namespace TextGen.Unicode

theorem lowerChar_ne_nil (c : Char) : lowerChar c ≠ [] := by
  unfold lowerChar
  split
  · nofun
  · split
    · nofun
    · split <;> nofun

theorem toLower_of_lowerChar {c : Char} (same : lowerChar c = [c]) : c.toLower = c := by
  by_cases ascii : c.toNat < 128
  · rw [lowerChar, if_pos ascii] at same
    exact List.head_eq_of_cons_eq same
  · rw [Char.toLower]
    have above : ¬ c.val ≤ 90 := fun small => ascii (by
      have small := UInt32.le_iff_toNat_le.mp small
      exact Nat.lt_of_le_of_lt small (by decide))
    simp [above]

theorem lowerFrom_cons (before rest : List Char) (c : Char) :
    ∃ form, form ≠ [] ∧ (form = [c] → c.toLower = c) ∧
      lowerFrom before (c :: rest) = form ++ lowerFrom (c :: before) rest := by
  rw [lowerFrom]
  refine ⟨_, ?_, ?_, rfl⟩
  · split
    · split <;> nofun
    · exact lowerChar_ne_nil c
  · split
    · rename_i sigma
      rw [sigma]
      exact fun _ => by decide
    · exact toLower_of_lowerChar

theorem length_le_lowerFrom (before text : List Char) :
    text.length ≤ (lowerFrom before text).length := by
  induction text generalizing before with
  | nil => exact Nat.zero_le _
  | cons c text ih =>
    obtain ⟨form, some_, _, whole⟩ := lowerFrom_cons before text c
    have later := ih (c :: before)
    have first := List.length_pos_iff.mpr some_
    rw [whole, List.length_append, List.length_cons]
    omega

theorem map_toLower_of_lowerFrom (before text : List Char) (same : lowerFrom before text = text) :
    text.map Char.toLower = text := by
  induction text generalizing before with
  | nil => rfl
  | cons c text ih =>
    obtain ⟨form, some_, lower, whole⟩ := lowerFrom_cons before text c
    rw [whole] at same
    -- a form of several characters would make the text longer
    have single : form.length = 1 := by
      have total := congrArg List.length same
      have later := length_le_lowerFrom (c :: before) text
      have first := List.length_pos_iff.mpr some_
      rw [List.length_append, List.length_cons] at total
      omega
    obtain ⟨d, rfl⟩ := List.length_eq_one_iff.mp single
    obtain ⟨rfl, rest⟩ := List.cons.inj same
    rw [List.map_cons, lower rfl, ih _ rest]

theorem map_toLower_of_lowercase {s : String} (same : lowercase s = s) :
    s.toList.map Char.toLower = s.toList := by
  apply map_toLower_of_lowerFrom []
  have text := congrArg String.toList same
  rwa [lowercase, String.toList_ofList] at text

end TextGen.Unicode
