import Mathlib
import TextGen.Number.Decimal

/-! Whole numbers as doubles.
Digits alone are read as the whole number that they write. Rounding does not lose the leading one of
a number that is 1 or more, so the double nearest to a positive whole number is positive, also when
it is infinite. -/
namespace TextGen.Number

open Float.Model Float.Model.UnpackedFloat

/-- A number that is 1 or more, with the leading one where a significand has it. -/
inductive IsLarge : UnpackedFloat → Prop
  | infinity : IsLarge (.infinity .positive)
  | finite {m : Nat} {e : Int} {positive : 0 < m} (leading : m.log2 = 52) (large : -52 ≤ e) :
      IsLarge (.finite .positive m e positive)

/- Shifting. -/

theorem mantissa_shiftRight (m : ExtendedMantissa) (k : Nat) :
    (m >>> k).mantissa = m.mantissa / 2 ^ k := by
  induction k with
  | zero => exact (Nat.div_one m.mantissa).symm
  | succ k ih =>
    change (m >>> k).mantissa / 2 = m.mantissa / 2 ^ (k + 1)
    rw [ih, Nat.div_div_eq_div_mul, Nat.pow_succ]

theorem mantissa_ofMantissaAndAccuracy (m : Nat) (a : Accuracy) :
    (ExtendedMantissa.ofMantissaAndAccuracy m a).mantissa = m := by
  unfold ExtendedMantissa.ofMantissaAndAccuracy
  split <;> rfl

theorem roundedMantissa_bounds (m : ExtendedMantissa) :
    m.mantissa ≤ m.roundedMantissa ∧ m.roundedMantissa ≤ m.mantissa + 1 := by
  obtain ⟨n, half, more⟩ := m
  cases half <;> cases more <;>
    simp only [ExtendedMantissa.roundedMantissa, ExtendedMantissa.accuracy,
      Accuracy.roundToNearestEven] <;> omega

theorem log2_div_two_pow {m k n : Nat} (h : m.log2 = n + k) (some_ : m ≠ 0) :
    (m / 2 ^ k).log2 = n := by
  obtain ⟨low, high⟩ := (Nat.log2_eq_iff some_).mp h
  have step : 0 < 2 ^ k := Nat.two_pow_pos k
  have low : 2 ^ n ≤ m / 2 ^ k := by
    rw [Nat.le_div_iff_mul_le step, ← Nat.pow_add]
    exact low
  have high : m / 2 ^ k < 2 ^ (n + 1) := by
    rw [Nat.div_lt_iff_lt_mul step, ← Nat.pow_add]
    calc m < 2 ^ (n + k + 1) := high
      _ = 2 ^ (n + 1 + k) := by rw [Nat.add_right_comm]
  have positive : 0 < 2 ^ n := Nat.two_pow_pos n
  exact (Nat.log2_eq_iff (by omega)).mpr ⟨low, high⟩

theorem log2_mul_two_pow {m : Nat} (some_ : m ≠ 0) (k : Nat) : (m * 2 ^ k).log2 = m.log2 + k := by
  have positive : 0 < 2 ^ k := Nat.two_pow_pos k
  have low := Nat.log2_self_le some_
  have high := (Nat.log2_lt (k := m.log2 + 1) some_).mp (Nat.lt_succ_self _)
  refine (Nat.log2_eq_iff (Nat.mul_ne_zero some_ positive.ne')).mpr ⟨?_, ?_⟩
  · rw [Nat.pow_add]
    exact Nat.mul_le_mul_right _ low
  · rw [Nat.add_right_comm, Nat.pow_add]
    exact Nat.mul_lt_mul_of_pos_right high positive

theorem targetExponent_of_nonneg {m : Nat} {e : Int} (large : 0 ≤ m.log2 + e) :
    Format.binary64.targetExponent (totalExponent m e) = m.log2 + e - 52 := by
  simp only [Format.targetExponent, totalExponent, Format.mantissaBits, Format.minExponent]
  omega

theorem shiftToTargetExponent_of_large {m : Nat} {e : Int} (a : Accuracy) (digits : 52 ≤ m.log2)
    (large : 0 ≤ m.log2 + e) :
    shiftToTargetExponent .binary64 m e a =
      (ExtendedMantissa.ofMantissaAndAccuracy m a >>> (m.log2 - 52), m.log2 + e - 52) := by
  have amount : (m.log2 + e - 52 - e).toNat = m.log2 - 52 := by omega
  have ends : e + ((m.log2 - 52 : Nat) : Int) = m.log2 + e - 52 := by omega
  simp only [shiftToTargetExponent, shiftToExponent, targetExponent_of_nonneg large, amount, ends]

theorem log2_first_digits {m : Nat} (a : Accuracy) (digits : 52 ≤ m.log2) :
    (ExtendedMantissa.ofMantissaAndAccuracy m a >>> (m.log2 - 52)).mantissa.log2 = 52 := by
  have some_ : m ≠ 0 := by
    rintro rfl
    simp at digits
  rw [mantissa_shiftRight, mantissa_ofMantissaAndAccuracy]
  exact log2_div_two_pow (by omega) some_

theorem bounds_of_log2_eq {m n : Nat} (h : m.log2 = n) (some_ : n ≠ 0) :
    2 ^ n ≤ m ∧ m < 2 ^ (n + 1) := by
  refine (Nat.log2_eq_iff ?_).mp h
  rintro rfl
  exact some_ (h.symm.trans (by simp))

/- Rounding. -/

theorem exists_finite_of_digits {r : Nat} {e : Int} (digits : 52 ≤ r.log2) (large : 0 ≤ r.log2 + e) :
    let shifted := shiftToTargetExponent .binary64 r e .exact
    ∃ n positive, (if h : shifted.1.mantissa = 0 then .zero .positive
      else .finite .positive shifted.1.mantissa shifted.2 (Nat.pos_of_ne_zero h)) =
        UnpackedFloat.finite .positive n (r.log2 + e - 52) positive ∧ n.log2 = 52 := by
  have leading := log2_first_digits .exact digits
  have least := (bounds_of_log2_eq leading (by decide)).1
  simp only [shiftToTargetExponent_of_large .exact digits large]
  have some_ : (ExtendedMantissa.ofMantissaAndAccuracy r .exact >>> (r.log2 - 52)).mantissa ≠ 0 := by
    omega
  exact ⟨_, Nat.pos_of_ne_zero some_, dif_neg some_, leading⟩

/-- Rounding keeps the first digits. It moves the end by one place more if it rounds up to a power
of 2. -/
theorem exists_roundWithAccuracy {m : Nat} {e : Int} (a : Accuracy) (digits : 52 ≤ m.log2)
    (large : 0 ≤ m.log2 + e) :
    let rounded :=
      (ExtendedMantissa.ofMantissaAndAccuracy m a >>> (m.log2 - 52)).roundedMantissa.log2
    52 ≤ rounded ∧ rounded ≤ 53 ∧
      ∃ n positive, roundWithAccuracy .binary64 .positive m e a =
        .finite .positive n (rounded + (m.log2 + e - 52) - 52) positive ∧ n.log2 = 52 := by
  intro rounded
  have bounds :=
    roundedMantissa_bounds (ExtendedMantissa.ofMantissaAndAccuracy m a >>> (m.log2 - 52))
  obtain ⟨low, high⟩ := bounds_of_log2_eq (log2_first_digits a digits) (by decide)
  have least : 52 ≤ rounded := (Nat.le_log2 (by omega)).mpr (by omega)
  have most : rounded < 54 := (Nat.log2_lt (by omega)).mpr (by omega)
  refine ⟨least, by omega, ?_⟩
  simp only [roundWithAccuracy, shiftToTargetExponent_of_large a digits large]
  exact exists_finite_of_digits least (by omega)

theorem isLarge_roundWithAccuracy {m : Nat} {e : Int} (a : Accuracy) (digits : 52 ≤ m.log2)
    (large : 0 ≤ m.log2 + e) : IsLarge (roundWithAccuracy .binary64 .positive m e a) := by
  obtain ⟨least, -, n, positive, rounded, leading⟩ := exists_roundWithAccuracy a digits large
  rw [rounded]
  exact .finite leading (by omega)

theorem isLarge_round {m : Nat} (some_ : m ≠ 0) : IsLarge (UnpackedFloat.round .binary64 .positive m 0) := by
  have target := targetExponent_of_nonneg (m := m) (e := 0) (by omega)
  simp only [UnpackedFloat.round, decreaseExponent, target]
  generalize amount : ((0 : Int) - (m.log2 + 0 - 52)).toNat = k
  have log : (m <<< k).log2 = m.log2 + k := by
    rw [Nat.shiftLeft_eq]
    exact log2_mul_two_pow some_ k
  exact isLarge_roundWithAccuracy _ (by omega) (by omega)

theorem isLarge_mul {m n : Nat} {e f : Int} {hm : 0 < m} {hn : 0 < n} (digits : 52 ≤ (m * n).log2)
    (large : 0 ≤ (m * n).log2 + (e + f)) :
    IsLarge (mul .binary64 (.finite .positive m e hm) (.finite .positive n f hn)) :=
  isLarge_roundWithAccuracy _ digits large

/- Bit patterns. -/

theorem unpackSign_packComponents {f : Format} (s : Sign) (exponent : BitVec f.exponentBits)
    (mantissa : BitVec f.mantissaBitsWithoutImplicit) :
    Sign.ofBitVec (unpackSign (packComponents f s exponent mantissa)) = s := by
  have same : unpackSign (packComponents f s exponent mantissa) = s.toBitVec := by
    apply BitVec.eq_of_getLsbD_eq
    intro i hi
    obtain rfl : i = 0 := by omega
    simp [unpackSign, packComponents, BitVec.getLsbD_append, BitVec.getElem_append]
  rw [same]
  cases s <;> rfl

theorem unpack_packComponents {exponent : BitVec 11} (mantissa : BitVec 52)
    (notFirst : exponent ≠ 0#11) (notLast : exponent ≠ -1#11) :
    ∃ m positive, unpack .binary64 (packComponents .binary64 .positive exponent mantissa) =
        .finite .positive m (exponent.toNat - (1023 + 52)) positive ∧ m.log2 = 52 := by
  have whole : (1#1 ++ mantissa).toNat = 2 ^ 52 + mantissa.toNat := by
    rw [BitVec.toNat_append, ← Nat.shiftLeft_add_eq_or_of_lt mantissa.isLt]
    rfl
  have bound := mantissa.isLt
  have positive : 0 < (1#1 ++ mantissa).toNat := by omega
  refine ⟨(1#1 ++ mantissa).toNat, positive, ?_, ?_⟩
  · rw [UnpackedFloat.unpack]
    simp only [unpackMantissa_packComponents, unpackExponent_packComponents,
      unpackSign_packComponents, if_neg notLast, if_neg notFirst]
    rfl
  · rw [whole]
    exact (Nat.log2_eq_iff (by omega)).mpr ⟨by omega, by omega⟩

theorem unpack_pack_of_leading {m : Nat} {e : Int} (positive : 0 < m) (leading : m.log2 = 52)
    (low : -52 ≤ e) (high : (e + 1023 + 52).toNat + 1 < 2 ^ 11) :
    ∃ n positive', (pack (.finite .positive m e positive)).unpack =
      .finite .positive n e positive' ∧ n.log2 = 52 := by
  have packed : UnpackedFloat.pack .binary64 (.finite .positive m e positive) =
      packComponents .binary64 .positive (.ofNat 11 (e + 1023 + 52).toNat) (.ofNat 52 m) := by
    rw [UnpackedFloat.pack]
    exact (if_neg (Nat.not_le_of_lt high)).trans (if_pos (by rw [leading]; rfl))
  have inside : (BitVec.ofNat 11 (e + 1023 + 52).toNat).toNat = (e + 1023 + 52).toNat := by
    rw [BitVec.toNat_ofNat]
    exact Nat.mod_eq_of_lt (by omega)
  have notFirst : BitVec.ofNat 11 (e + 1023 + 52).toNat ≠ 0#11 := by
    intro same
    rw [same] at inside
    change 0 = _ at inside
    omega
  have notLast : BitVec.ofNat 11 (e + 1023 + 52).toNat ≠ -1#11 := by
    intro same
    rw [same] at inside
    change 2047 = _ at inside
    omega
  obtain ⟨n, positive', unpacked, same⟩ :=
    unpack_packComponents (BitVec.ofNat 52 m) notFirst notLast
  refine ⟨n, positive', ?_, same⟩
  have exponent : ((e + 1023 + 52).toNat : Int) - (1023 + 52) = e := by omega
  rw [inside, exponent] at unpacked
  rw [← unpacked, ← packed]
  rfl

theorem isLarge_unpack_pack {u : UnpackedFloat} (h : IsLarge u) : IsLarge (pack u).unpack := by
  have infinite : (pack (.infinity .positive)).unpack = .infinity .positive := rfl
  cases h with
  | infinity =>
    rw [infinite]
    exact .infinity
  | @finite m e positive leading large =>
    by_cases outside : 2 ^ 11 ≤ (e + 1023 + 52).toNat + 1
    · have same : pack (.finite .positive m e positive) = pack (.infinity .positive) := by
        simp only [Float.Model.pack, UnpackedFloat.pack]
        congr 2
        exact if_pos outside
      rw [same, infinite]
      exact .infinity
    · obtain ⟨n, positive', unpacked, same⟩ :=
        unpack_pack_of_leading positive leading large (Nat.lt_of_not_le outside)
      rw [unpacked]
      exact .finite same large

theorem zero_compare_of_isLarge {u : UnpackedFloat} (h : IsLarge u) :
    (UnpackedFloat.zero .positive).compare u = some .lt := by
  cases h <;> rfl

theorem pos_of_isLarge {x : Float} (h : IsLarge x.toModel.unpack) : 0 < x := by
  have zero : (0 : Float).toModel.unpack = .zero .positive := rfl
  have less : (0 : Float).toModel.lt x.toModel = true := by
    rw [Float.Model.lt, UnpackedFloat.lt, zero, zero_compare_of_isLarge h]
    rfl
  exact decide_eq_true less

/- Whole numbers. -/

theorem isLarge_mul_one {u : UnpackedFloat} (h : IsLarge u) :
    IsLarge (mul .binary64 u (.finite .positive (2 ^ 52) (-52) (by decide))) := by
  cases h with
  | infinity => exact .infinity
  | @finite m e positive leading large =>
    have log := log2_mul_two_pow positive.ne' 52
    exact isLarge_mul (by omega) (by omega)

theorem isLarge_ofScientific {n : Nat} (some_ : n ≠ 0) :
    IsLarge (Float.ofScientific n false 0).toModel.unpack := by
  unfold Float.ofScientific
  split
  · rename_i short
    have one : (Float.ofBits 0x3FF0000000000000).toModel.unpack =
        .finite .positive (2 ^ 52) (-52) (by decide) := rfl
    have inside : n.toUInt64.toNat = n := by
      rw [Nat.toUInt64, UInt64.toNat_ofNat']
      exact Nat.mod_eq_of_lt (by omega)
    have whole : n.toUInt64.toFloat.toModel = pack (UnpackedFloat.round .binary64 .positive n 0) := by
      have positive : compare (n : Int) 0 = .gt := by
        rw [compare_gt_iff_gt]
        omega
      change pack (normalize .binary64 (n.toUInt64.toNat : Int) 0 .positive) = _
      rw [inside, UnpackedFloat.normalize, positive, Int.toNat_natCast]
    change IsLarge (pack (mul .binary64 n.toUInt64.toFloat.toModel.unpack
      (Float.ofBits 0x3FF0000000000000).toModel.unpack)).unpack
    rw [one, whole]
    exact isLarge_unpack_pack (isLarge_mul_one (isLarge_unpack_pack (isLarge_round some_)))
  · have log : (n <<< 53 * 1).log2 = n.log2 + 53 := by
      rw [Nat.mul_one, Nat.shiftLeft_eq]
      exact log2_mul_two_pow some_ 53
    have shifted : 0 < n <<< 53 := by
      rw [Nat.shiftLeft_eq]
      positivity
    have product : IsLarge (mul .binary64 (.finite .positive (n <<< 53) (-53) shifted)
        (.finite .positive 1 0 Nat.one_pos)) := isLarge_mul (by omega) (by omega)
    have inRange : ¬ (0 : Int) < -(2 ^ 11 + (n.log2 : Int)) := by omega
    change IsLarge (pack (UnpackedFloat.ofScientific .binary64 n 0)).unpack
    rw [UnpackedFloat.ofScientific, dif_neg some_, if_neg (by decide), if_neg inRange,
      if_pos (by decide)]
    exact isLarge_unpack_pack product

theorem nearest_pos {n : Nat} (some_ : n ≠ 0) : 0 < nearest n 0 := by
  have infinite : (0 : Float) < 1.0 / 0.0 := by decide +kernel
  unfold nearest
  rw [if_neg some_]
  split
  · exact infinite
  · rw [if_neg (by omega)]
    exact pos_of_isLarge (isLarge_ofScientific some_)

/- Digits. -/

theorem toLower_of_isDigit {c : Char} (digit : c.isDigit = true) : c.toLower = c := by
  have small : c.val.toNat ≤ 57 := by
    simp only [Char.isDigit, Bool.and_eq_true, decide_eq_true_eq, UInt32.le_iff_toNat_le] at digit
    exact digit.2
  rw [Char.toLower, dif_neg]
  intro large
  have large : 65 ≤ c.val.toNat := UInt32.le_iff_toNat_le.mp large.1
  omega

theorem word?_eq_none {first : Char} {rest : List Char} (digit : first.isDigit = true) :
    word? (first :: rest) = none := by
  have other : ∀ (x : Char) (s : String), s.toList.head? = some x → x.isDigit = false →
      String.ofList ((first :: rest).map Char.toLower) ≠ s := by
    rintro x s head letter rfl
    rw [String.toList_ofList, List.map_cons, toLower_of_isDigit digit] at head
    cases head
    rw [digit] at letter
    cases letter
  rw [word?, if_neg, if_neg]
  · exact other 'n' "nan" rfl rfl
  · rintro (same | same)
    · exact other 'i' "inf" rfl rfl same
    · exact other 'i' "infinity" rfl rfl same

theorem ofChars?_of_isDigit {digits : List Char} (some_ : digits ≠ [])
    (all : ∀ c ∈ digits, c.isDigit = true) :
    ofChars? digits = some (nearest (ofDigits digits) 0) := by
  have taken : digits.takeWhile Char.isDigit = digits := List.takeWhile_eq_self_iff.mpr all
  have left : digits.dropWhile Char.isDigit = [] := List.dropWhile_eq_nil_iff.mpr all
  have magnitude : magnitude? digits = some (nearest (ofDigits digits) 0) := by
    simp only [magnitude?, taken, left, some_, false_and, if_false, List.append_nil]
    rfl
  cases digits with
  | nil => exact absurd rfl some_
  | cons first rest =>
    have digit := all first (by simp)
    unfold ofChars?
    split
    rename_i negative digits unsigned
    split at unsigned
    · rename_i same
      cases same
      cases digit
    · rename_i same
      cases same
      cases digit
    · cases unsigned
      rw [word?_eq_none digit, Option.none_or, magnitude]
      rfl

end TextGen.Number
