import Mathlib
import TextGen.Text.Split

/-! Trimming.
What is not blank stays, and blanks at the end of a text are not seen once it is trimmed. -/
namespace TextGen.Text

theorem isBlank_of_isAlphanum {c : Char} (h : c.isAlphanum = true) : isBlank c = false := by
  simp only [Char.isAlphanum, Char.isAlpha, Char.isUpper, Char.isLower, Char.isDigit,
    Bool.or_eq_true, Bool.and_eq_true, decide_eq_true_eq, ge_iff_le, UInt32.le_iff_toNat_le] at h
  simp only [isBlank, Char.toNat, Bool.or_eq_false_iff, Bool.and_eq_false_iff,
    decide_eq_false_iff_not, beq_eq_false_iff_ne]
  have same : c.val.toNat = c.toNat := rfl
  simp at h
  omega

theorem trimEnd_append_blank (text : List Char) {blanks : List Char}
    (blank : blanks.all isBlank = true) : trimEnd (text ++ blanks) = trimEnd text := by
  have before : ∀ c ∈ blanks.reverse, isBlank c = true := by
    simpa using blank
  rw [trimEnd, List.reverse_append, List.dropWhile_append_of_pos before, trimEnd]

theorem trimEnd_eq_self {text : List Char} (last : ∀ c ∈ text.getLast?, isBlank c = false) :
    trimEnd text = text := by
  rw [trimEnd]
  cases turned : text.reverse with
  | nil => simpa using turned.symm
  | cons c rest =>
    have solid : isBlank c = false := by
      apply last
      rw [← List.head?_reverse, turned]
      rfl
    rw [List.dropWhile_cons_of_neg (by simp [solid]), ← turned, List.reverse_reverse]

theorem trim_eq_self {text : List Char} (first : ∀ c ∈ text.head?, isBlank c = false)
    (last : ∀ c ∈ text.getLast?, isBlank c = false) : trim text = text := by
  have start : trimStart text = text := by
    cases text with
    | nil => rfl
    | cons c text => exact List.dropWhile_cons_of_neg (by simp [first c rfl])
  rw [trim, start, trimEnd_eq_self last]

theorem trim_append_blank (text : List Char) {blanks : List Char}
    (blank : blanks.all isBlank = true) : trim (text ++ blanks) = trim text := by
  induction text with
  | nil =>
    have none : trimStart blanks = [] := List.dropWhile_eq_nil_iff.mpr (by simpa using blank)
    rw [List.nil_append, trim, none]
    rfl
  | cons c text ih =>
    simp only [trim, trimStart, List.cons_append, List.dropWhile_cons] at ih ⊢
    split
    · exact ih
    · exact trimEnd_append_blank (c :: text) blank

theorem trimStart_append (a b : List Char) :
    trimStart (a ++ b) = if trimStart a = [] then trimStart b else trimStart a ++ b := by
  unfold trimStart
  rw [List.dropWhile_append]
  cases a.dropWhile isBlank <;> rfl

theorem trimEnd_append (a b : List Char) :
    trimEnd (a ++ b) = if trimEnd b = [] then trimEnd a else a ++ trimEnd b := by
  have blank : trimEnd b = [] ↔ trimStart b.reverse = [] := List.reverse_eq_nil_iff
  have turned : trimEnd (a ++ b) = (trimStart (b.reverse ++ a.reverse)).reverse := by
    rw [trimEnd, List.reverse_append]
    rfl
  rw [turned, trimStart_append]
  by_cases none : trimStart b.reverse = []
  · rw [if_pos none, if_pos (blank.mpr none)]
    rfl
  · rw [if_neg none, if_neg fun h => none (blank.mp h), List.reverse_append, List.reverse_reverse]
    rfl

theorem exists_blanks (text : List Char) : ∃ front back : List Char,
    text = front ++ trim text ++ back ∧ trimStart text = trim text ++ back ∧
      back.all isBlank = true := by
  have blank : ((trimStart text).reverse.takeWhile isBlank).reverse.all isBlank = true := by
    rw [List.all_reverse, List.all_eq_true]
    exact fun c mem => List.mem_takeWhile_imp mem
  have split : trimStart text =
      trim text ++ ((trimStart text).reverse.takeWhile isBlank).reverse := by
    rw [trim, trimEnd, ← List.reverse_append, List.takeWhile_append_dropWhile, List.reverse_reverse]
  refine ⟨text.takeWhile isBlank, _, ?_, split, blank⟩
  rw [List.append_assoc, ← split]
  exact List.takeWhile_append_dropWhile.symm

theorem trim_trimStart (text : List Char) : trim (trimStart text) = trim text := by
  rw [trim, trim, trimStart, trimStart, List.dropWhile_idempotent]

theorem trim_trim (text : List Char) : trim (trim text) = trim text := by
  obtain ⟨_, back, _, start, blank⟩ := exists_blanks text
  rw [← trim_append_blank (trim text) blank, ← start, trim_trimStart]

@[simp] theorem trimmed_trimmed (s : String) : trimmed (trimmed s) = trimmed s := by
  rw [trimmed, trimmed, String.toList_ofList, trim_trim]

theorem mem_trim {c : Char} {text : List Char} (mem : c ∈ text) (solid : isBlank c = false) :
    c ∈ trim text := by
  have kept : ∀ u : List Char, c ∈ u → c ∈ u.dropWhile isBlank := by
    intro u mem
    rw [← List.takeWhile_append_dropWhile (p := isBlank) (l := u)] at mem
    rcases List.mem_append.mp mem with blank | rest
    · have passed := List.mem_takeWhile_imp blank
      rw [solid] at passed
      cases passed
    · exact rest
  exact List.mem_reverse.mpr (kept _ (List.mem_reverse.mpr (kept _ mem)))

end TextGen.Text
