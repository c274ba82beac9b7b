import Mathlib
import TextGen.Random.Source

/-! Every draw among some things comes to its end.
The generator runs through all its states, so it comes to the word 0, which is accepted whatever the
bound is. The number of words a draw may try is as large as that takes: with more of them it returns
the same, and so what `accept` returns when it has none left is never the result of a draw. -/
namespace TextGen.Source

def skip (s : Source) : Nat → Source
  | 0 => s
  | k + 1 => skip s.next.2 k

theorem skip_queue (words : List UInt64) (s : UInt64) :
    skip ⟨words, s⟩ words.length = ⟨[], s⟩ := by
  induction words with
  | nil => rfl
  | cons w rest ih => exact ih

theorem skip_add (s : Source) (i j : Nat) : skip s (i + j) = skip (skip s i) j := by
  induction i generalizing s with
  | zero => rw [Nat.zero_add, skip]
  | succ i ih =>
    rw [Nat.succ_add]
    exact ih s.next.2

theorem skip_generator (s : UInt64) (k : Nat) :
    skip ⟨[], s⟩ k = ⟨[], s + UInt64.ofNat k * 0x9E3779B97F4A7C15⟩ := by
  induction k generalizing s with
  | zero =>
    have none_ : UInt64.ofNat 0 = 0 := rfl
    rw [skip, none_, UInt64.zero_mul, UInt64.add_zero]
  | succ k ih =>
    have one : UInt64.ofNat 1 = 1 := rfl
    rw [skip, next]
    dsimp only
    rw [ih, UInt64.ofNat_add, UInt64.add_mul, one, UInt64.one_mul, UInt64.add_assoc,
      UInt64.add_comm (UInt64.ofNat k * _)]

/-- Within a period of the generator its state becomes any given one: the increment is odd. -/
theorem exists_state (s goal : UInt64) :
    ∃ k < UInt64.size, s + UInt64.ofNat k * 0x9E3779B97F4A7C15 = goal := by
  let steps := (goal - s) * 0xF1DE83E19937733D
  refine ⟨steps.toNat, steps.toNat_lt, ?_⟩
  have inverse : (0xF1DE83E19937733D : UInt64) * 0x9E3779B97F4A7C15 = 1 := by decide
  rw [UInt64.ofNat_toNat, UInt64.mul_assoc, inverse, UInt64.mul_one, UInt64.add_comm,
    UInt64.sub_add_cancel]

theorem exists_zero (s : Source) : ∃ k < s.patience, (s.skip k).next.1 = 0 := by
  obtain ⟨words, state⟩ := s
  obtain ⟨k, period, reached⟩ := exists_state (state + 0x9E3779B97F4A7C15) 0
  refine ⟨words.length + k, Nat.add_lt_add_left period _, ?_⟩
  rw [skip_add, skip_queue, skip_generator, next]
  change scramble (state + _ + _) = 0
  rw [UInt64.add_assoc, UInt64.add_comm (_ * _), ← UInt64.add_assoc, reached]
  decide

variable {width n : Nat}

def Taken (width n : Nat) (w : UInt64) : Prop :=
  upper width w * n % Nat.pow 2 width ≤ zone width n

theorem taken_zero : Taken width n 0 := by
  have none_ : upper width 0 = 0 := Nat.zero_shiftRight _
  rw [Taken, none_, Nat.zero_mul, Nat.zero_mod]
  exact Nat.zero_le _

theorem accept_of_taken {k tries : Nat} {s : Source} (taken : Taken width n (s.skip k).next.1)
    (enough : k < tries) : accept width n tries s = accept width n (k + 1) s := by
  induction k generalizing tries s with
  | zero =>
    obtain ⟨more, rfl⟩ := Nat.exists_eq_add_of_le' enough
    rw [Taken, skip] at taken
    rw [accept, accept]
    simp only [taken, if_true]
  | succ k ih =>
    cases tries with
    | zero => contradiction
    | succ tries =>
      rw [accept, accept]
      dsimp only
      split
      · rfl
      · exact ih taken (Nat.lt_of_succ_lt_succ enough)

/-- No draw runs out of words to try. -/
theorem accept_of_patience_le {tries : Nat} {s : Source} (enough : s.patience ≤ tries) :
    accept width n tries s = accept width n s.patience s := by
  obtain ⟨k, patient, zero⟩ := exists_zero s
  have taken : Taken width n (s.skip k).next.1 := zero ▸ taken_zero
  rw [accept_of_taken taken (patient.trans_le enough), accept_of_taken taken patient]

theorem patience_le_succ (s : Source) : s.patience ≤ s.next.2.patience + 1 := by
  obtain ⟨words, state⟩ := s
  cases words with
  | nil =>
    simp only [patience, next]
    omega
  | cons w rest =>
    simp only [patience, next, List.length_cons]
    omega

/-- A draw takes the next word or begins again behind it. -/
theorem accept_patience (s : Source) :
    accept width n s.patience s =
      if upper width s.next.1 * n % Nat.pow 2 width ≤ zone width n then
        (upper width s.next.1 * n / Nat.pow 2 width, s.next.2)
      else accept width n s.next.2.patience s.next.2 := by
  rw [← accept_of_patience_le (patience_le_succ s), accept]

end TextGen.Source
