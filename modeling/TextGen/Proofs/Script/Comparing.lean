import Mathlib
import TextGen.Proofs.Number.Ordering
import TextGen.Script.Operator

/-! Comparing values.
The order of two trimmed texts is that of numbers if both are numbers, and that of texts otherwise.
Equality is that of the texts. So the operators agree unless the texts are two spellings of one
number, which are equal in their order but not as texts. -/
namespace TextGen.Script

namespace Operator

/-- Whether a text, trimmed, is read as what is not a number. -/
def ReadsNaN (text : String) : Prop :=
  (Number.ofText? (Text.trimmed text)).any Float.isNaN = true

instance (text : String) : Decidable (ReadsNaN text) :=
  inferInstanceAs (Decidable (_ = true))

/-- Whether two texts are read as the same number. -/
def SameNumber (left right : String) : Prop :=
  (Number.ofText? left).any (fun a => (Number.ofText? right).any fun b => a == b) = true

instance (left right : String) : Decidable (SameNumber left right) :=
  inferInstanceAs (Decidable (_ = true))

/-- Two spellings of one number. Blanks around a text do not make another spelling. -/
def Respelled (left right : String) : Prop :=
  Text.trimmed left ≠ Text.trimmed right ∧ SameNumber (Text.trimmed left) (Text.trimmed right)

instance (left right : String) : Decidable (Respelled left right) :=
  inferInstanceAs (Decidable (_ ∧ _))

/-- That the operator holds between two values. -/
def Met (left right : String) (r : Run) (o : Operator) : Prop := (o.holds left right r).1 = true

/-- The operators of order agree with one another and with equality. -/
structure Consistent (met : Operator → Prop) : Prop where
  atLeast : met .atLeast ↔ met .greater ∨ met .equal
  atMost : met .atMost ↔ met .less ∨ met .equal
  one : ∃! o, o ∈ [less, equal, greater] ∧ met o

theorem orderOfNumbers_eq (a b : Float) :
    orderOfNumbers a b = a.toModel.compare b.toModel := by
  have swapped : b.toModel.compare a.toModel = (a.toModel.compare b.toModel).map Ordering.swap :=
    Number.compare_swap _ _
  simp only [orderOfNumbers, Number.lt_iff_compare, Number.beq_iff_compare, swapped]
  cases a.toModel.compare b.toModel with
  | none => rfl
  | some o => cases o <;> rfl

variable {left right : String} {r : Run}

theorem order_ne_none (leftProper : (Number.ofText? left).any Float.isNaN = false)
    (rightProper : (Number.ofText? right).any Float.isNaN = false) :
    order left right ≠ none := by
  unfold order
  split
  · rename_i a b first second
    rw [first] at leftProper
    rw [second] at rightProper
    rw [orderOfNumbers_eq]
    exact Number.compare_ne_none leftProper rightProper
  · exact Option.some_ne_none _

theorem order_eq_iff (proper : (Number.ofText? left).any Float.isNaN = false) :
    order left right = some .eq ↔ left = right ∨ SameNumber left right := by
  unfold order SameNumber
  cases first : Number.ofText? left with
  | none => simp
  | some a =>
    cases second : Number.ofText? right with
    | none => simp
    | some b =>
      rw [first] at proper
      simp only [Option.any_some, orderOfNumbers_eq, Number.beq_iff_compare, iff_or_self]
      rintro rfl
      cases first.symm.trans second
      exact Number.compare_self proper

theorem met_iff_order {o : Ordering}
    (found : order (Text.trimmed left) (Text.trimmed right) = some o) :
    (Met left right r .greater ↔ o = .gt) ∧ (Met left right r .less ↔ o = .lt) ∧
    (Met left right r .atLeast ↔ o ≠ .lt) ∧ (Met left right r .atMost ↔ o ≠ .gt) := by
  simp only [Met, holds, compareTrimmed, found]
  cases o <;> decide

theorem met_equal_iff : Met left right r .equal ↔ Text.trimmed left = Text.trimmed right := by
  simp [Met, holds, compareTrimmed]

theorem consistent_of_order {met : Operator → Prop} {o : Ordering}
    (greater : met .greater ↔ o = .gt) (less : met .less ↔ o = .lt)
    (atLeast : met .atLeast ↔ o ≠ .lt) (atMost : met .atMost ↔ o ≠ .gt)
    (equal : met .equal ↔ o = .eq) : Consistent met where
  atLeast := by
    rw [atLeast, greater, equal]
    cases o <;> decide
  atMost := by
    rw [atMost, less, equal]
    cases o <;> decide
  one := by
    cases o with
    | lt => exact ⟨.less, by simp [less], by simp [less, equal, greater]⟩
    | eq => exact ⟨.equal, by simp [equal], by simp [less, equal, greater]⟩
    | gt => exact ⟨.greater, by simp [greater], by simp [less, equal, greater]⟩

/-- Between values that are not read as what is not a number, the operators of order and equality
are consistent exactly if the values are not two spellings of one number. Such values are at least
and at most each other, and neither less, equal nor greater. -/
theorem comparisons_consistent_iff (r : Run) (leftProper : ¬ ReadsNaN left)
    (rightProper : ¬ ReadsNaN right) :
    (Consistent (Met left right r) ↔ ¬ Respelled left right) ∧
    (Respelled left right → Met left right r .atLeast ∧ Met left right r .atMost ∧
      ∀ o ∈ [less, equal, greater], ¬ Met left right r o) := by
  rw [ReadsNaN, Bool.not_eq_true] at leftProper rightProper
  obtain ⟨o, found⟩ := Option.ne_none_iff_exists'.mp (order_ne_none leftProper rightProper)
  obtain ⟨greater, less, atLeast, atMost⟩ := met_iff_order (r := r) found
  have equal : Met left right r .equal ↔ Text.trimmed left = Text.trimmed right := met_equal_iff
  have level : order (Text.trimmed left) (Text.trimmed right) = some .eq ↔
      Text.trimmed left = Text.trimmed right ∨
        SameNumber (Text.trimmed left) (Text.trimmed right) := order_eq_iff leftProper
  rw [found, Option.some_inj] at level
  have respelled : Respelled left right ↔ o = .eq ∧ ¬ Met left right r .equal := by
    rw [level, equal, or_and_right, and_not_self_iff, false_or, and_comm]
    rfl
  refine ⟨⟨fun consistent spellings => ?_, fun one => ?_⟩, fun spellings => ?_⟩
  · obtain ⟨rfl, other⟩ := respelled.mp spellings
    rcases consistent.atLeast.mp (atLeast.mpr (by decide)) with more | same
    · cases greater.mp more
    · exact other same
  · refine consistent_of_order greater less atLeast atMost ⟨fun same => ?_, fun same => ?_⟩
    · exact level.mpr (.inl (equal.mp same))
    · by_contra other
      exact one (respelled.mpr ⟨same, other⟩)
  · obtain ⟨rfl, other⟩ := respelled.mp spellings
    refine ⟨atLeast.mpr (by decide), atMost.mpr (by decide), ?_⟩
    simp [less, greater, other]

theorem comparisons_consistent_iff_of_spellings :
    Consistent (Met " +1e1 " "9.50" default) ∧ ¬ Consistent (Met "-0" "0.00" default) ∧
    Met "-0" "0.00" default .atLeast ∧ ¬ Met "-0" "0.00" default .equal := by
  have ten : ¬ ReadsNaN " +1e1 " ∧ ¬ ReadsNaN "9.50" := by decide +kernel
  have zeros : ¬ ReadsNaN "-0" ∧ ¬ ReadsNaN "0.00" := by decide +kernel
  have apart : ¬ Respelled " +1e1 " "9.50" := by decide +kernel
  have spellings : Respelled "-0" "0.00" := by decide +kernel
  obtain ⟨consistent, _⟩ := comparisons_consistent_iff default ten.1 ten.2
  obtain ⟨inconsistent, level⟩ := comparisons_consistent_iff default zeros.1 zeros.2
  obtain ⟨atLeast, _, others⟩ := level spellings
  exact ⟨consistent.mpr apart, fun all => inconsistent.mp all spellings, atLeast,
    others .equal (by decide)⟩

/-- A number written in two ways is at least itself, but neither greater nor equal. -/
theorem not_all_consistent : ¬ ∀ (left right : String) (r : Run), ¬ ReadsNaN left →
    ¬ ReadsNaN right → Consistent (Met left right r) := by
  intro all
  have consistent := all "1.0" "1" default (by decide +kernel) (by decide +kernel)
  have atLeast : Met "1.0" "1" default .atLeast := by
    unfold Met
    decide +kernel
  rcases consistent.atLeast.mp atLeast with greater | equal
  · revert greater
    unfold Met
    decide +kernel
  · revert equal
    unfold Met
    decide +kernel

end Operator

end TextGen.Script
