import Mathlib
import TextGen.Text.Search

/-! Where one text stands in another.
The places are counted. Two texts one after the other hold at least what both hold, and no more if
no place lies across the border. -/
namespace TextGen.Text

variable {needle text before after : List Char}

theorem dropPrefix?_eq_some_iff :
    dropPrefix? needle text = some after ↔ text = needle ++ after := by
  induction needle generalizing text with
  | nil => simp [dropPrefix?]
  | cons a needle ih =>
    cases text with
    | nil => simp [dropPrefix?]
    | cons c text =>
      by_cases same : a = c
      · simp [dropPrefix?, same, ih]
      · simp [dropPrefix?, same, Ne.symm same]

theorem dropPrefix?_eq_none_iff : dropPrefix? needle text = none ↔ ¬ needle <+: text := by
  rw [Option.eq_none_iff_forall_ne_some]
  constructor
  · rintro absent ⟨after, same⟩
    exact absent after (dropPrefix?_eq_some_iff.mpr same.symm)
  · rintro absent after found
    exact absent ⟨after, (dropPrefix?_eq_some_iff.mp found).symm⟩

theorem endsWith_iff {ending : List Char} : endsWith text ending = true ↔ ending <:+ text := by
  rw [endsWith, ← Option.ne_none_iff_isSome, ne_eq, dropPrefix?_eq_none_iff, not_not,
    List.reverse_prefix]

theorem eq_of_cut? (found : cut? needle text = some (before, after)) :
    text = before ++ needle ++ after := by
  induction text generalizing before with
  | nil =>
    unfold cut? at found
    split at found
    · next empty =>
      cases found
      simp [empty]
    · cases found
  | cons c text ih =>
    unfold cut? at found
    split at found
    · next here =>
      cases found
      simpa using dropPrefix?_eq_some_iff.mp here
    · obtain ⟨⟨earlier, rest⟩, later, same⟩ := Option.map_eq_some_iff.mp found
      cases same
      rw [ih later]
      rfl

theorem cut?_eq_none_iff : cut? needle text = none ↔ ¬ needle <:+: text := by
  induction text with
  | nil => simp [cut?]
  | cons c text ih =>
    unfold cut?
    rw [List.infix_cons_iff, not_or, ← ih, ← dropPrefix?_eq_none_iff]
    cases dropPrefix? needle (c :: text) with
    | some rest => simp
    | none => simp

theorem le_of_cut? (found : cut? needle text = some (before, after)) {u v : List Char}
    (place : u ++ needle ++ v = text) : before.length ≤ u.length := by
  induction text generalizing before u with
  | nil =>
    unfold cut? at found
    split at found
    · cases found
      exact Nat.zero_le _
    · cases found
  | cons c text ih =>
    unfold cut? at found
    split at found
    · cases found
      exact Nat.zero_le _
    · next absent =>
      obtain ⟨⟨earlier, rest⟩, later, same⟩ := Option.map_eq_some_iff.mp found
      cases same
      cases u with
      | nil => exact absurd ⟨v, place⟩ (dropPrefix?_eq_none_iff.mp absent)
      | cons d u => exact Nat.succ_le_succ (ih later (List.cons.inj place).2)

theorem cut?_eq_some_iff : cut? needle text = some (before, after) ↔
    text = before ++ needle ++ after ∧
      ∀ u v, u ++ needle ++ v = text → before.length ≤ u.length := by
  constructor
  · intro found
    exact ⟨eq_of_cut? found, fun u v place => le_of_cut? found place⟩
  · rintro ⟨place, leftmost⟩
    cases found : cut? needle text with
    | none => exact absurd ⟨before, after, place.symm⟩ (cut?_eq_none_iff.mp found)
    | some parts =>
      obtain ⟨first, rest⟩ := parts
      have other := eq_of_cut? found
      have same : first.length = before.length :=
        (le_of_cut? found place.symm).antisymm (leftmost first rest other.symm)
      rw [other, List.append_assoc, List.append_assoc] at place
      obtain ⟨rfl, behind⟩ := List.append_inj place same
      rw [List.append_cancel_left behind]

/-- The number of places at which a text stands in another one. -/
def occurrences (needle : List Char) : List Char → Nat
  | [] => if needle = [] then 1 else 0
  | c :: text => (if needle <+: c :: text then 1 else 0) + occurrences needle text

theorem occurrences_pos_iff : 0 < occurrences needle text ↔ needle <:+: text := by
  induction text with
  | nil =>
    by_cases empty : needle = []
    · simp [occurrences, empty]
    · simp [occurrences, empty]
  | cons c text ih =>
    unfold occurrences
    rw [List.infix_cons_iff, ← ih]
    by_cases here : needle <+: c :: text
    · simp [here]
    · simp [here]

theorem occurrences_eq_zero (absent : ¬ needle <:+: text) : occurrences needle text = 0 := by
  rw [← occurrences_pos_iff, Nat.not_lt, Nat.le_zero] at absent
  exact absent

/-- Each place in two texts one after the other lies within one of them. -/
def Apart (needle x y : List Char) : Prop :=
  ∀ u v, u ++ needle ++ v = x ++ y → u.length + needle.length ≤ x.length ∨ x.length ≤ u.length

theorem Apart.tail {c : Char} {x y : List Char} (apart : Apart needle (c :: x) y) :
    Apart needle x y := by
  intro u v same
  have longer := apart (c :: u) v (by simp [same])
  simp only [List.length_cons] at longer
  omega

theorem Apart.of_append {w x y : List Char} (apart : Apart needle (w ++ x) y) :
    Apart needle x y := by
  induction w with
  | nil => exact apart
  | cons c w ih => exact ih apart.tail

theorem occurrences_append {x y : List Char} (nonempty : needle ≠ [])
    (apart : Apart needle x y) :
    occurrences needle (x ++ y) = occurrences needle x + occurrences needle y := by
  induction x with
  | nil => simp [occurrences, nonempty]
  | cons c x ih =>
    have first : needle <+: c :: x ++ y ↔ needle <+: c :: x := by
      constructor
      · rintro ⟨v, same⟩
        have within := apart [] v same
        simp only [List.length_nil, Nat.zero_add, List.length_cons] at within
        have begins : needle <+: c :: x ++ y := ⟨v, same⟩
        exact List.prefix_of_prefix_length_le begins (List.prefix_append _ _) (by simp; omega)
      · intro begins
        exact begins.trans (List.prefix_append _ _)
    rw [List.cons_append, occurrences, occurrences, ih apart.tail, ← List.cons_append]
    simp only [first]
    omega

theorem occurrences_append_ge {x y : List Char} (nonempty : needle ≠ []) :
    occurrences needle x + occurrences needle y ≤ occurrences needle (x ++ y) := by
  induction x with
  | nil => simp [occurrences, nonempty]
  | cons c x ih =>
    rw [List.cons_append, occurrences, occurrences]
    by_cases begins : needle <+: c :: x
    · have still : needle <+: c :: (x ++ y) := begins.trans (List.prefix_append (c :: x) y)
      rw [if_pos begins, if_pos still]
      omega
    · rw [if_neg begins]
      omega

end TextGen.Text
