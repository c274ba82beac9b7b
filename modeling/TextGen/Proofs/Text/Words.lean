import Mathlib
import TextGen.Text.Split

/-! Words between blanks.
A blank parts the words before it from those after it, and words with blanks between them are found
again. -/
namespace TextGen.Text

theorem splitWhere_eq_splitOnP (test : Char → Bool) (text : List Char) :
    splitWhere test text = text.splitOnP test := by
  induction text with
  | nil => rfl
  | cons c text ih =>
    rw [splitWhere, List.splitOnP_cons_eq_if_modifyHead, ih]
    split
    · rfl
    · cases pieces : text.splitOnP test with
      | nil => exact absurd pieces (List.splitOnP_ne_nil _ _)
      | cons piece rest => rfl

theorem flatten_splitWhere (test : Char → Bool) (text : List Char) :
    (splitWhere test text).flatten = text.filter (!test ·) := by
  induction text with
  | nil => rfl
  | cons c text ih =>
    rw [splitWhere]
    split
    · rename_i separates
      rw [List.flatten_cons, List.nil_append, ih, List.filter_cons_of_neg (by simp [separates])]
    · rename_i inside
      rw [List.filter_cons_of_pos (by simpa using inside), ← ih]
      cases splitWhere test text with
      | nil => rfl
      | cons piece pieces => rfl

theorem flatten_splitOn (separator : Char) (text : List Char) :
    (splitOn separator text).flatten = text.filter (· ≠ separator) := by
  rw [splitOn, flatten_splitWhere]
  exact List.filter_congr fun c _ => by rw [beq_eq_decide, decide_not]

theorem splitOn_intercalate {separator : Char} {pieces : List (List Char)}
    (free : ∀ piece ∈ pieces, separator ∉ piece) (some_ : pieces ≠ []) :
    splitOn separator (List.intercalate [separator] pieces) = pieces := by
  rw [splitOn, splitWhere_eq_splitOnP]
  exact List.splitOn_intercalate separator free some_

theorem flatten_words (text : List Char) :
    (words text).flatten = text.filter (!isBlank ·) := by
  rw [words, ← flatten_splitWhere, List.flatten_filter_ne_nil]

@[simp] theorem words_nil : words [] = [] := rfl

theorem words_append {blank : Char} (h : isBlank blank = true) (front back : List Char) :
    words (front ++ blank :: back) = words front ++ words back := by
  rw [words, splitWhere_eq_splitOnP, List.splitOnP_append_cons _ _ h, List.filter_append,
    ← splitWhere_eq_splitOnP, ← splitWhere_eq_splitOnP]
  rfl

def IsSolid (text : List Char) : Prop := text ≠ [] ∧ ∀ c ∈ text, isBlank c = false

theorem words_of_isSolid {text : List Char} (h : IsSolid text) : words text = [text] := by
  rw [words, splitWhere_eq_splitOnP, List.splitOnP_eq_singleton fun c mem => by simp [h.2 c mem]]
  exact List.filter_cons_of_pos (decide_eq_true h.1)

theorem isSolid_of_mem_words {text word : List Char} (h : word ∈ words text) : IsSolid word := by
  rw [words, List.mem_filter, decide_eq_true_eq] at h
  refine ⟨h.2, ?_⟩
  have inside := h.1
  clear h
  induction text generalizing word with
  | nil =>
    rw [splitWhere, List.mem_singleton] at inside
    rw [inside]
    nofun
  | cons c text ih =>
    rw [splitWhere] at inside
    split at inside
    · rcases List.mem_cons.mp inside with rfl | later
      · nofun
      · exact ih later
    · rename_i solid
      have solid : isBlank c = false := by simpa using solid
      split at inside
      · rw [List.mem_singleton.mp inside]
        simpa using solid
      · rename_i piece pieces whole
        rw [whole] at ih
        rcases List.mem_cons.mp inside with rfl | later
        · exact List.forall_mem_cons.mpr ⟨solid, ih List.mem_cons_self⟩
        · exact ih (List.mem_cons_of_mem _ later)

theorem words_intercalate {pieces : List (List Char)} (h : ∀ piece ∈ pieces, IsSolid piece) :
    words (List.intercalate [' '] pieces) = pieces := by
  induction pieces with
  | nil => rfl
  | cons piece pieces ih =>
    have first := words_of_isSolid (h piece List.mem_cons_self)
    cases pieces with
    | nil => simpa [List.intercalate] using first
    | cons next rest =>
      rw [List.intercalate_cons_cons, List.append_assoc, List.singleton_append,
        words_append (by decide), first, ih fun p mem => h p (List.mem_cons_of_mem _ mem)]
      rfl

end TextGen.Text
