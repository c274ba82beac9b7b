import TextGen.Number.Double
import TextGen.Proofs.Number.Whole

/-! Ones added up.
A double below `2 ^ 54` to which 1 is added stays below `2 ^ 55`, and from there on rounding takes
every 1 away again. So no number of ones has an infinite sum. -/
namespace TextGen.Number

open Float.Model Float.Model.UnpackedFloat

/-- A number that is 1 or more and below `2 ^ 55`, with the leading one where a significand has
it. -/
inductive IsCount : UnpackedFloat → Prop
  | mk {m : Nat} {e : Int} {positive : 0 < m} (leading : m.log2 = 52) (low : -52 ≤ e)
      (high : e ≤ 2) : IsCount (.finite .positive m e positive)

/- Rounding. -/

theorem roundedMantissa_of_roundBit {m : ExtendedMantissa} (h : m.roundBit = false) :
    m.roundedMantissa = m.mantissa := by
  obtain ⟨n, half, more⟩ := m
  cases h
  cases more <;> rfl

theorem normalize_of_digits {m : Nat} (digits : 52 ≤ m.log2) (zero : Sign) :
    UnpackedFloat.normalize .binary64 m (-52) zero =
      roundWithAccuracy .binary64 .positive m (-52) .exact := by
  have positive : compare (m : Int) 0 = .gt := by
    rw [compare_gt_iff_gt]
    by_contra none
    have zero : m = 0 := by omega
    simp [zero] at digits
  have none : (-52 - ((m.log2 : Int) + -52 - 52)).toNat = 0 := by omega
  simp only [UnpackedFloat.normalize, positive, Int.toNat_natCast, UnpackedFloat.round,
    targetExponent_of_nonneg (m := m) (e := -52) (by omega), decreaseExponent, none,
    Nat.shiftLeft_zero]
  rfl

theorem add_one {m : Nat} {e : Int} {positive : 0 < m} (low : -52 ≤ e) :
    UnpackedFloat.add .binary64 (.finite .positive m e positive)
        (.finite .positive (2 ^ 52) (-52) (by decide)) =
      roundWithAccuracy .binary64 .positive (m * 2 ^ (e + 52).toNat + 2 ^ 52) (-52) .exact := by
  have least : min e (-52) = -52 := by omega
  have digits : 52 ≤ (m * 2 ^ (e + 52).toNat + 2 ^ 52).log2 :=
    (Nat.le_log2 (by omega)).mpr (by omega)
  rw [← normalize_of_digits digits .positive]
  simp only [UnpackedFloat.add, decreaseExponent, least, Nat.shiftLeft_eq, Sign.apply]
  have amount : (e - -52).toNat = (e + 52).toNat := by omega
  rw [amount, Nat.cast_add]
  rfl

theorem roundedMantissa_of_small_one (m : Nat) :
    (ExtendedMantissa.ofMantissaAndAccuracy (m * 2 ^ 54 + 2 ^ 52) .exact >>> 54).roundedMantissa =
      m := by
  have even : (m * 2 ^ 54 + 2 ^ 52) / 2 ^ 53 % 2 = 0 := by omega
  have bit : (ExtendedMantissa.ofMantissaAndAccuracy (m * 2 ^ 54 + 2 ^ 52) .exact >>> 54).roundBit =
      false := by
    change ((ExtendedMantissa.ofMantissaAndAccuracy (m * 2 ^ 54 + 2 ^ 52) .exact >>> 53).mantissa % 2
      != 0) = false
    rw [mantissa_shiftRight, mantissa_ofMantissaAndAccuracy, even]
    rfl
  rw [roundedMantissa_of_roundBit bit, mantissa_shiftRight, mantissa_ofMantissaAndAccuracy]
  omega

theorem isCount_add_one {u : UnpackedFloat} (h : IsCount u) :
    IsCount (UnpackedFloat.add .binary64 u (.finite .positive (2 ^ 52) (-52) (by decide))) := by
  obtain @⟨m, e, positive, leading, low, high⟩ := h
  obtain ⟨least, most⟩ := bounds_of_log2_eq leading (by decide)
  rw [add_one low]
  generalize sum : m * 2 ^ (e + 52).toNat + 2 ^ 52 = n
  have digits : 52 ≤ n.log2 := (Nat.le_log2 (by omega)).mpr (by omega)
  obtain ⟨_, carry, k, positive', rounded, same⟩ :=
    exists_roundWithAccuracy (e := -52) .exact digits (by omega)
  rw [rounded]
  refine .mk same (by omega) ?_
  by_cases last : e = 2
  · have amount : (e + 52).toNat = 54 := by omega
    rw [amount] at sum
    have size : n.log2 = 106 := (Nat.log2_eq_iff (by omega)).mpr ⟨by omega, by omega⟩
    have kept : (ExtendedMantissa.ofMantissaAndAccuracy n .exact >>> (n.log2 - 52)).roundedMantissa =
        m := by
      rw [size, ← sum]
      exact roundedMantissa_of_small_one m
    rw [kept, leading, size]
    decide
  · have few : 2 ^ (e + 52).toNat ≤ 2 ^ 53 := Nat.pow_le_pow_right (by decide) (by omega)
    have product : m * 2 ^ (e + 52).toNat ≤ (2 ^ 53 - 1) * 2 ^ 53 :=
      Nat.mul_le_mul (by omega) few
    have size : n.log2 < 106 := (Nat.log2_lt (by omega)).mpr (by omega)
    omega

/- Doubles. -/

theorem isCount_unpack_pack {u : UnpackedFloat} (h : IsCount u) : IsCount (pack u).unpack := by
  obtain @⟨m, e, positive, leading, low, high⟩ := h
  obtain ⟨n, positive', unpacked, same⟩ :=
    unpack_pack_of_leading positive leading low (by omega)
  rw [unpacked]
  exact .mk same low high

theorem isFinite_of_isCount {x : Float} (h : IsCount x.toModel.unpack) : isFinite x = true := by
  have field : (@unpackExponent Format.binary64 x.toModel.toBits.toBitVec).toNat =
      x.toBits.toNat / leadingOne % 2048 := by
    simp only [unpackExponent, leadingOne, BitVec.toNat_cast, BitVec.extractLsb_toNat,
      Nat.shiftRight_eq_div_pow]
    rfl
  have inside : x.toBits.toNat / leadingOne % 2048 ≠ 2047 := by
    intro last
    have same : @unpackExponent Format.binary64 x.toModel.toBits.toBitVec = -1#11 :=
      BitVec.eq_of_toNat_eq (field.trans last)
    simp only [Float.Model.unpack, UnpackedFloat.unpack, same, if_true] at h
    split at h <;> cases h
  simp only [isFinite, shape, if_neg inside]
  by_cases first : x.toBits.toNat / leadingOne % 2048 = 0
  · rw [if_pos first]
  · rw [if_neg first]

theorem isFinite_foldl_of_ones {ones : List Float} (all : ∀ w ∈ ones, w = 1.0) {x : Float}
    (h : IsCount x.toModel.unpack) : isFinite (ones.foldl (· + ·) x) = true := by
  induction ones generalizing x with
  | nil => exact isFinite_of_isCount h
  | cons w ones ih =>
    obtain ⟨rfl, others⟩ := List.forall_mem_cons.mp all
    exact ih others (isCount_unpack_pack (isCount_add_one h))

theorem isCount_one : IsCount (1.0 : Float).toModel.unpack := by
  have bits : (1.0 : Float).toModel = (Float.ofBits 0x3FF0000000000000).toModel := by
    decide +kernel
  have one : (Float.ofBits 0x3FF0000000000000).toModel.unpack =
      .finite .positive (2 ^ 52) (-52) (by decide) := rfl
  rw [bits, one]
  exact .mk Nat.log2_two_pow (by decide) (by decide)

end TextGen.Number
