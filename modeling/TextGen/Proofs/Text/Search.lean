import Mathlib
import TextGen.Text.Search

/-! What searching finds.
A run is found exactly if it stands somewhere in the list. -/
namespace TextGen.Text

theorem hasRun_iff {α : Type} [BEq α] [LawfulBEq α] (run list : List α) :
    hasRun run list = true ↔ run <:+: list := by
  induction list with
  | nil => simp [hasRun]
  | cons x xs ih =>
    rw [hasRun, Bool.or_eq_true, List.isPrefixOf_iff_prefix, ih, List.infix_cons_iff]

end TextGen.Text
