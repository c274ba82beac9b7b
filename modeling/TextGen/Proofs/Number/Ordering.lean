import Mathlib

/-! The order of doubles.
Comparing two doubles the other way round gives the opposite, and a double compares with itself as
equal. Both need that what is not a number is left out, which stands in no order at all. -/
namespace TextGen.Number

open Float.Model Float.Model.UnpackedFloat

theorem compare_sign_swap (s t : Sign) : compare t s = (compare s t).swap := by
  cases s <;> cases t <;> rfl

theorem compare_magnitude_swap (m n : Nat) (e f : Int) :
    (compare f e).then (compare n m) = ((compare e f).then (compare m n)).swap := by
  rw [Ordering.swap_then, ← Std.OrientedOrd.eq_swap (a := f) (b := e),
    ← Std.OrientedOrd.eq_swap (a := n) (b := m)]

theorem compare_swap (x y : UnpackedFloat) : y.compare x = (x.compare y).map Ordering.swap := by
  cases x with
  | notANumber => cases y <;> rfl
  | infinity s =>
    cases y with
    | infinity t => exact congrArg some (compare_sign_swap s t)
    | _ => cases s <;> rfl
  | zero s =>
    cases y with
    | notANumber => rfl
    | zero t => rfl
    | infinity t => cases t <;> rfl
    | finite t n f positive => cases t <;> rfl
  | finite s m e positive =>
    cases y with
    | notANumber => cases s <;> rfl
    | infinity t => cases s <;> cases t <;> rfl
    | zero t => cases s <;> rfl
    | finite t n f positive =>
      have magnitudes := congrArg some (compare_magnitude_swap m n e f)
      cases s with
      | negative =>
        cases t with
        | negative => exact congrArg (Option.map Ordering.swap) magnitudes
        | positive => rfl
      | positive =>
        cases t with
        | negative => rfl
        | positive => exact magnitudes

theorem compare_self {x : UnpackedFloat} (number : x.isNaN = false) : x.compare x = some .eq := by
  cases x with
  | notANumber => cases number
  | infinity s => cases s <;> rfl
  | zero s => rfl
  | finite s m e positive =>
    have magnitudes : (compare e e).then (compare m m) = .eq := by
      rw [Std.ReflOrd.compare_self, Std.ReflOrd.compare_self]
      rfl
    cases s with
    | negative => exact congrArg (fun o => some (Ordering.swap o)) magnitudes
    | positive => exact congrArg some magnitudes

theorem compare_ne_none {x y : UnpackedFloat} (left : x.isNaN = false) (right : y.isNaN = false) :
    x.compare y ≠ none := by
  intro absent
  unfold UnpackedFloat.compare at absent
  split at absent
  · cases left
  · cases right
  all_goals cases absent

/- What the operations on doubles say. -/

theorem lt_iff_compare {a b : Float} : a < b ↔ a.toModel.compare b.toModel = some .lt := by
  change decide ((a.toModel.unpack.compare b.toModel.unpack == some .lt) = true) = true ↔ _
  rw [decide_eq_true_iff]
  exact beq_iff_eq

theorem beq_iff_compare {a b : Float} :
    (a == b) = true ↔ a.toModel.compare b.toModel = some .eq := by
  change (a.toModel.unpack.compare b.toModel.unpack == some .eq) = true ↔ _
  exact beq_iff_eq

end TextGen.Number
