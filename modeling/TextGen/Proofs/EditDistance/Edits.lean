import Mathlib

/-! Edits of sequences.
The distance of Levenshtein is defined by recursion on the first items of two sequences. It is the
least number of edits that lead from one to the other: there are that many, and one edit changes the
distance to any sequence by at most 1. So it is symmetric, as edits can be undone, and the last
items can be split off instead of the first ones. -/
namespace TextGen.EditDistance

variable {α : Type} {a b c : List α}

/-- One item is put in, taken out or replaced. -/
inductive Edit : List α → List α → Prop where
  | insertion (front back : List α) (x : α) : Edit (front ++ back) (front ++ x :: back)
  | deletion (front back : List α) (x : α) : Edit (front ++ x :: back) (front ++ back)
  | substitution (front back : List α) (x y : α) : Edit (front ++ x :: back) (front ++ y :: back)

/-- A number of edits, one after the other. -/
inductive Edits : Nat → List α → List α → Prop where
  | done (a : List α) : Edits 0 a a
  | step {n : Nat} {a b c : List α} (first : Edit a b) (rest : Edits n b c) : Edits (n + 1) a c

/- Edits of parts and in other orders. -/

theorem Edit.cons (x : α) (h : Edit a b) : Edit (x :: a) (x :: b) := by
  cases h with
  | insertion front back y => exact .insertion (x :: front) back y
  | deletion front back y => exact .deletion (x :: front) back y
  | substitution front back y z => exact .substitution (x :: front) back y z

theorem Edit.symm (h : Edit a b) : Edit b a := by
  cases h with
  | insertion front back x => exact .deletion front back x
  | deletion front back x => exact .insertion front back x
  | substitution front back x y => exact .substitution front back y x

theorem Edit.reverse (h : Edit a b) : Edit a.reverse b.reverse := by
  cases h with
  | insertion front back x => simpa using Edit.insertion back.reverse front.reverse x
  | deletion front back x => simpa using Edit.deletion back.reverse front.reverse x
  | substitution front back x y => simpa using Edit.substitution back.reverse front.reverse x y

namespace Edits

variable {m n : Nat}

theorem cons (x : α) (h : Edits n a b) : Edits n (x :: a) (x :: b) := by
  induction h with
  | done a => exact .done (x :: a)
  | step first _ ih => exact .step (first.cons x) ih

theorem trans (h : Edits m a b) (h' : Edits n b c) : Edits (m + n) a c := by
  induction h with
  | done a => rwa [Nat.zero_add]
  | step first _ ih =>
    rw [Nat.succ_add]
    exact .step first (ih h')

theorem symm (h : Edits n a b) : Edits n b a := by
  induction h with
  | done a => exact .done a
  | step first _ ih => exact ih.trans (.step first.symm (.done _))

theorem reverse (h : Edits n a b) : Edits n a.reverse b.reverse := by
  induction h with
  | done a => exact .done a.reverse
  | step first _ ih => exact .step first.reverse ih

theorem insertAll (a : List α) : Edits a.length [] a := by
  induction a with
  | nil => exact .done []
  | cons x a ih => exact .step (.insertion [] [] x) (ih.cons x)

end Edits

/- The distance. -/

variable [DecidableEq α]

/-- The number of single items that have to be put in, taken out or replaced, by the first items. -/
def levenshtein : List α → List α → Nat
  | [], target => target.length
  | s :: source, [] => source.length + 1
  | s :: source, t :: target =>
    min (min (levenshtein source (t :: target) + 1) (levenshtein (s :: source) target + 1))
      (levenshtein source target + if s = t then 0 else 1)
termination_by source target => source.length + target.length

@[simp] theorem levenshtein_nil_left (target : List α) : levenshtein [] target = target.length := by
  rw [levenshtein]

@[simp] theorem levenshtein_nil_right (source : List α) :
    levenshtein source [] = source.length := by
  cases source with
  | nil => rw [levenshtein_nil_left]
  | cons s source => rw [levenshtein, List.length_cons]

theorem levenshtein_cons_cons (s t : α) (source target : List α) :
    levenshtein (s :: source) (t :: target) =
      min (min (levenshtein source (t :: target) + 1) (levenshtein (s :: source) target + 1))
        (levenshtein source target + if s = t then 0 else 1) := by
  rw [levenshtein]

theorem levenshtein_map {β : Type} [DecidableEq β] {f : α → β} (injective : Function.Injective f)
    (source target : List α) :
    levenshtein (source.map f) (target.map f) = levenshtein source target := by
  fun_induction levenshtein source target with
  | case1 target => simp
  | case2 s source => simp
  | case3 s source t target delete insert keep =>
    simp only [List.map_cons] at delete insert ⊢
    rw [levenshtein_cons_cons, delete, insert, keep]
    simp only [injective.eq_iff]

theorem edits_levenshtein (source target : List α) :
    Edits (levenshtein source target) source target := by
  fun_induction levenshtein source target with
  | case1 target => exact .insertAll target
  | case2 s source => exact (Edits.insertAll (s :: source)).symm
  | case3 s source t target delete insert keep =>
    have deleted := Edits.step (.deletion [] source s) delete
    have inserted := Edits.step (.insertion [] (s :: source) t) (insert.cons t)
    have kept : Edits (levenshtein source target + if s = t then 0 else 1)
        (s :: source) (t :: target) := by
      split
      · rename_i same
        rw [← same]
        exact keep.cons s
      · exact .step (.substitution [] source s t) (keep.cons t)
    let leads (n : Nat) : Prop := Edits n (s :: source) (t :: target)
    exact min_rec' leads (min_rec' leads deleted inserted) kept

/- One edit changes the distance by at most 1. -/

theorem levenshtein_cons_left_le (x : α) (a b : List α) :
    levenshtein (x :: a) b ≤ levenshtein a b + 1 := by
  cases b with
  | nil => simp
  | cons t b => rw [levenshtein_cons_cons]; omega

theorem levenshtein_cons_right_le (t : α) (a b : List α) :
    levenshtein a (t :: b) ≤ levenshtein a b + 1 := by
  cases a with
  | nil => simp
  | cons x a => rw [levenshtein_cons_cons]; omega

theorem levenshtein_cons_cons_le (x t : α) (a b : List α) :
    levenshtein (x :: a) (t :: b) ≤ levenshtein a b + 1 := by
  rw [levenshtein_cons_cons]
  split <;> omega

theorem levenshtein_le_cons_left (x : α) (a b : List α) :
    levenshtein a b ≤ levenshtein (x :: a) b + 1 := by
  induction b with
  | nil =>
    simp only [levenshtein_nil_right, List.length_cons]
    omega
  | cons t b ih =>
    have inserted := levenshtein_cons_right_le t a b
    rw [levenshtein_cons_cons]
    omega

theorem levenshtein_head_le (x y : α) (a b : List α) :
    levenshtein (x :: a) b ≤ levenshtein (y :: a) b + 1 := by
  induction b with
  | nil => simp
  | cons t b ih =>
    have deleted := levenshtein_cons_left_le x a (t :: b)
    have inserted := levenshtein_cons_right_le t (x :: a) b
    have replaced := levenshtein_cons_cons_le x t a b
    rw [levenshtein_cons_cons y]
    omega

theorem levenshtein_cons_near (x : α) (near : ∀ c, levenshtein a c ≤ levenshtein b c + 1)
    (c : List α) : levenshtein (x :: a) c ≤ levenshtein (x :: b) c + 1 := by
  induction c with
  | nil => simpa using near []
  | cons t c ih =>
    have deleted := near (t :: c)
    have kept := near c
    rw [levenshtein_cons_cons, levenshtein_cons_cons]
    omega

theorem levenshtein_append_near (front : List α)
    (near : ∀ c, levenshtein a c ≤ levenshtein b c + 1) (c : List α) :
    levenshtein (front ++ a) c ≤ levenshtein (front ++ b) c + 1 := by
  induction front generalizing c with
  | nil => exact near c
  | cons x front ih => exact levenshtein_cons_near x ih c

theorem levenshtein_of_edit (h : Edit a b) (c : List α) :
    levenshtein a c ≤ levenshtein b c + 1 := by
  cases h with
  | insertion front back x =>
    exact levenshtein_append_near front (levenshtein_le_cons_left x back) c
  | deletion front back x =>
    exact levenshtein_append_near front (levenshtein_cons_left_le x back) c
  | substitution front back x y =>
    exact levenshtein_append_near front (levenshtein_head_le x y back) c

theorem levenshtein_self (a : List α) : levenshtein a a = 0 := by
  induction a with
  | nil => simp
  | cons x a ih => simp [levenshtein_cons_cons, ih]

theorem levenshtein_le_of_edits {n : Nat} (h : Edits n a b) : levenshtein a b ≤ n := by
  induction h with
  | done a => rw [levenshtein_self]
  | step first _ ih => exact (levenshtein_of_edit first _).trans (Nat.succ_le_succ ih)

/-- The distance is the least number of edits. -/
theorem isLeast_levenshtein (a b : List α) : IsLeast {n | Edits n a b} (levenshtein a b) :=
  ⟨edits_levenshtein a b, fun _ => levenshtein_le_of_edits⟩

/- The other end of the sequences. -/

theorem levenshtein_reverse (a b : List α) :
    levenshtein a.reverse b.reverse = levenshtein a b := by
  apply Nat.le_antisymm
  · exact levenshtein_le_of_edits (edits_levenshtein a b).reverse
  · have back := (edits_levenshtein a.reverse b.reverse).reverse
    rw [List.reverse_reverse, List.reverse_reverse] at back
    exact levenshtein_le_of_edits back

theorem levenshtein_concat_concat (s t : α) (source target : List α) :
    levenshtein (source ++ [s]) (target ++ [t]) =
      min (min (levenshtein source (target ++ [t]) + 1) (levenshtein (source ++ [s]) target + 1))
        (levenshtein source target + if s = t then 0 else 1) := by
  rw [← levenshtein_reverse, List.reverse_concat, List.reverse_concat, levenshtein_cons_cons,
    ← List.reverse_concat, ← List.reverse_concat, levenshtein_reverse, levenshtein_reverse,
    levenshtein_reverse]

end TextGen.EditDistance
