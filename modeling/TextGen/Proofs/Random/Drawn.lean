import Mathlib
import TextGen.Proofs.Number.Counting
import TextGen.Proofs.Random.Counted

/-! What a draw returns.
A draw among some things returns one of them, whatever the words of the source and the weights
are; and below a number that is not too large for a word, each number is drawn by some word. -/
namespace TextGen.Source

theorem upper_lt {width : Nat} (fits : width ≤ 64) (w : UInt64) : upper width w < 2 ^ width := by
  have whole : 2 ^ (64 - width) * 2 ^ width = 2 ^ 64 := by
    rw [← Nat.pow_add, Nat.sub_add_cancel fits]
  rw [upper, Nat.shiftRight_eq_div_pow]
  apply Nat.div_lt_of_lt_mul
  rw [whole]
  exact w.toNat_lt

theorem accept_lt {width : Nat} (fits : width ≤ 64) (n : Nat) (some_ : 0 < n) (tries : Nat)
    (s : Source) : (accept width n tries s).1 < n := by
  induction tries generalizing s with
  | zero => exact some_
  | succ tries ih =>
    unfold accept
    dsimp only
    split
    · have part := upper_lt fits s.next.1
      exact Nat.div_lt_of_lt_mul (Nat.mul_lt_mul_of_pos_right part some_)
    · exact ih _

theorem index_lt (n : Nat) (some_ : 0 < n) (s : Source) : (index n s).1 < n := by
  unfold index
  split
  · exact some_
  · exact accept_lt (by decide) n some_ s.patience s

theorem below_lt (n : Nat) (some_ : 0 < n) (s : Source) : (below n s).1 < n := by
  unfold below
  split
  · exact some_
  · exact accept_lt (by decide) n some_ s.patience s

theorem exists_product (n i : Nat) (inside : i < n) (fits : n ≤ UInt64.size) :
    ∃ w : UInt64, i * UInt64.size ≤ w.toNat * n ∧ w.toNat * n < i * UInt64.size + n := by
  let q := (i * UInt64.size + (n - 1)) / n
  have floor : q * n ≤ i * UInt64.size + (n - 1) :=
    Nat.div_mul_le_self (i * UInt64.size + (n - 1)) n
  have positive : 0 < n := by omega
  have ceiling : i * UInt64.size ≤ q * n := by
    have parts := Nat.div_add_mod (i * UInt64.size + (n - 1)) n
    have rest := Nat.mod_lt (i * UInt64.size + (n - 1)) positive
    rw [Nat.mul_comm] at parts
    change q * n + _ = _ at parts
    omega
  have small : q < UInt64.size := by
    have next : (i + 1) * UInt64.size ≤ n * UInt64.size := Nat.mul_le_mul_right _ inside
    rw [Nat.add_mul, Nat.one_mul, Nat.mul_comm n] at next
    have product : q * n < UInt64.size * n := by omega
    exact Nat.lt_of_mul_lt_mul_right product
  refine ⟨UInt64.ofNat q, ?_⟩
  rw [UInt64.toNat_ofNat_of_lt' small]
  omega

theorem le_zone (n : Nat) : n ≤ zone 64 n + 1 := by
  have whole : n * 1 ≤ n * Nat.pow 2 (64 - (n.log2 + 1)) :=
    Nat.mul_le_mul_left n (Nat.pow_pos (by decide))
  rw [zone]
  omega

theorem below_reaches (n i : Nat) (inside : i < n) (fits : n ≤ UInt64.size) :
    ∃ w, ∀ queue state, below n ⟨w :: queue, state⟩ = (i, ⟨queue, state⟩) := by
  obtain ⟨w, low, high⟩ := exists_product n i inside fits
  refine ⟨w, fun queue state => ?_⟩
  have whole : upper 64 w = w.toNat := Nat.shiftRight_zero
  have width : Nat.pow 2 64 = UInt64.size := rfl
  have quotient : w.toNat * n / UInt64.size = i := by
    apply Nat.div_eq_of_lt_le low
    rw [Nat.add_mul, Nat.one_mul]
    omega
  have remainder : w.toNat * n % UInt64.size ≤ zone 64 n := by
    have parts := Nat.div_add_mod (w.toNat * n) UInt64.size
    have large := le_zone n
    rw [quotient, Nat.mul_comm] at parts
    omega
  obtain ⟨tries, patient⟩ : ∃ tries, patience ⟨w :: queue, state⟩ = tries + 1 :=
    ⟨queue.length + UInt64.size, by rw [patience, List.length_cons]; omega⟩
  rw [below, if_neg (by omega), patient, accept]
  simp only [next, whole, width, quotient, remainder, if_true]

/- Draws by weight. -/

def total : List Float → Float
  | [] => 0
  | w :: ws => ws.foldl (· + ·) w

/-- Weights none of which is negative or not a number, and whose sum is not finite. -/
def Overflows (weights : List Float) : Prop :=
  (∀ w ∈ weights, 0 ≤ w) ∧ Number.isFinite (total weights) = false

instance (weights : List Float) : Decidable (Overflows weights) :=
  inferInstanceAs (Decidable (_ ∧ _))

theorem not_overflows_of_ones {weights : List Float} (ones : ∀ w ∈ weights, w = 1.0) :
    ¬ Overflows weights := by
  rintro ⟨-, infinite⟩
  cases weights with
  | nil => exact absurd infinite (by decide +kernel)
  | cons w ws =>
    obtain ⟨rfl, others⟩ := List.forall_mem_cons.mp ones
    rw [total, Number.isFinite_foldl_of_ones others Number.isCount_one] at infinite
    cases infinite

/-- A draw by weight fails where the weights overflow, and otherwise gives none or a place among
them. -/
theorem weightedIndex?_cases (weights : List Float) (s : Source) :
    Overflows weights ∧ weightedIndex? weights s = (.error .overflow, s) ∨
    ¬ Overflows weights ∧ ∃ i s', weightedIndex? weights s = (.ok i, s') ∧
      ∀ j ∈ i, j < weights.length := by
  cases weights with
  | nil =>
    refine .inr ⟨fun h => ?_, none, s, rfl, by simp⟩
    exact absurd h.2 (by decide +kernel)
  | cons w ws =>
    have sum : (runningSums w ws).getLastD w = total (w :: ws) := getLastD_runningSums w w ws
    simp only [weightedIndex?, sum]
    split
    · rename_i negative
      refine .inr ⟨fun h => ?_, none, s, rfl, by simp⟩
      obtain ⟨x, mem, low⟩ := List.any_eq_true.mp negative
      simp [h.1 x mem] at low
    · rename_i allowed
      have each : ∀ x ∈ w :: ws, 0 ≤ x := by simpa using allowed
      split
      · rename_i infinite
        exact .inl ⟨⟨each, by simpa using infinite⟩, rfl⟩
      · rename_i finite
        have fits : ¬ Overflows (w :: ws) := fun h => finite (by simp [h.2])
        split
        · exact .inr ⟨fits, none, s, rfl, by simp⟩
        · refine .inr ⟨fits, some _, _, rfl, fun j chosen => ?_⟩
          cases chosen
          apply Nat.lt_succ_of_le
          apply List.countP_le_length.trans
          rw [List.length_dropLast, length_runningSums, Nat.add_sub_cancel]

theorem item?_of_ne_nil {α : Type} {items : List α} (h : items ≠ []) (s : Source) :
    ∃ a ∈ items, (item? items s).1 = some a := by
  have inside := index_lt items.length (List.length_pos_of_ne_nil h) s
  unfold item?
  -- Named before the cases, so that no draw is evaluated with all its tries.
  generalize index items.length s = drawn at inside ⊢
  cases items with
  | nil => exact absurd rfl h
  | cons first rest => exact ⟨_, List.getElem_mem inside, List.getElem?_eq_getElem inside⟩

end TextGen.Source
