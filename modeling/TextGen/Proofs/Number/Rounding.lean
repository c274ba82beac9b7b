import Mathlib
import TextGen.Number.Double

/-! Rounding to whole numbers.
The value of a finite double is a fraction, and the whole number to which a double that is not
negative is rounded is the one nearest to its value, with halves upward, as far as the bound. -/
namespace TextGen.Number

/-- The exact value of a finite double. -/
def Parts.value (p : Parts) : ℚ :=
  (if p.negative then -1 else 1) * (p.significand * 2 ^ p.exponent)

theorem Parts.quotient_pos (p : Parts) : 0 < p.quotient.2 := by
  unfold quotient
  split
  · exact Nat.one_pos
  · exact Nat.two_pow_pos _

theorem Parts.quotient_eq (p : Parts) :
    (p.quotient.1 / p.quotient.2 : ℚ) = p.significand * 2 ^ p.exponent := by
  unfold quotient
  split
  · rename_i e exponent
    rw [exponent]
    simp
  · rename_i e exponent
    rw [exponent, zpow_negSucc]
    simp [div_eq_mul_inv]

theorem roundDiv_away_eq (num den : Nat) :
    roundDiv .away num den = if den ≤ 2 * (num % den) then num / den + 1 else num / den := by
  simp only [roundDiv, true_or, and_true]
  split <;> split <;> omega

theorem roundDiv_away {num den : Nat} (positive : 0 < den) :
    (roundDiv .away num den : ℤ) = round (num / den : ℚ) := by
  have large : (0 : ℚ) < den := Nat.cast_pos.mpr positive
  have parts : (num : ℚ) = den * (num / den : ℕ) + (num % den : ℕ) := by
    exact_mod_cast (Nat.div_add_mod num den).symm
  have rest : ((num % den : ℕ) : ℚ) < den := Nat.cast_lt.mpr (Nat.mod_lt num positive)
  have nonneg : (0 : ℚ) ≤ (num % den : ℕ) := Nat.cast_nonneg _
  symm
  rw [round_eq_iff, roundDiv_away_eq, Set.mem_Ico, le_div_iff₀ large, div_lt_iff₀ large, parts]
  generalize num / den = q
  generalize num % den = r at rest nonneg ⊢
  split
  · rename_i half
    have half : (den : ℚ) ≤ 2 * r := by exact_mod_cast half
    push_cast
    constructor <;> linarith
  · rename_i less
    have less : 2 * (r : ℚ) < den := by exact_mod_cast Nat.lt_of_not_le less
    push_cast
    constructor <;> linarith

theorem roundToNat_of_finite {x : Float} {p : Parts} (bound : Nat) (h : shape x = .finite p) :
    (roundToNat bound x : ℤ) = max 0 (min (bound : ℤ) (round p.value)) := by
  have magnitude : (roundDiv .away p.quotient.1 p.quotient.2 : ℤ) =
      round (p.quotient.1 / p.quotient.2 : ℚ) := roundDiv_away p.quotient_pos
  have nonneg : (0 : ℚ) ≤ p.significand * 2 ^ p.exponent := by positivity
  rw [p.quotient_eq] at magnitude
  simp only [roundToNat, h, Parts.value]
  cases p.negative with
  | true =>
    have low : round (-1 * (p.significand * 2 ^ p.exponent : ℚ)) < 1 := by
      rw [round_eq, Int.floor_lt]
      push_cast
      linarith
    simp only [if_true]
    omega
  | false =>
    simp only [Bool.false_eq_true, if_false, one_mul, ← magnitude]
    omega

end TextGen.Number
