import Mathlib
import TextGen.Random.Source

/-! Shuffling keeps the items.
Each step exchanges two places at most, so whatever the source draws, every item stands as often in
the new order as in the old one. -/
namespace TextGen.Source

variable {α : Type}

def shuffleBy (draw : Nat → Source → Nat × Source) (items : Array α) : Nat → Source → Array α × Source
  | 0, s => (items, s)
  | i + 1, s =>
    let (j, s) := draw (i + 2) s
    shuffleBy draw (items.swapIfInBounds (i + 1) j) i s

/-- With the draw as a parameter, a step can be unfolded and no draw is evaluated with all its
tries. -/
theorem shuffleFrom_eq : @shuffleFrom α = shuffleBy index := by
  delta shuffleFrom shuffleBy
  rfl

theorem perm_swapIfInBounds (items : Array α) (i j : Nat) :
    (items.swapIfInBounds i j).toList.Perm items.toList := by
  unfold Array.swapIfInBounds
  split
  · split
    · exact (Array.swap_perm _ _).toList
    · exact .refl _
  · exact .refl _

theorem perm_shuffleBy (draw : Nat → Source → Nat × Source) (items : Array α) (last : Nat)
    (s : Source) : (shuffleBy draw items last s).1.toList.Perm items.toList := by
  induction last generalizing items s with
  | zero => exact .refl _
  | succ last ih => exact (ih _ _).trans (perm_swapIfInBounds ..)

theorem perm_shuffle (items : List α) (s : Source) : (s.shuffle items).1.Perm items := by
  unfold shuffle
  rw [shuffleFrom_eq]
  exact perm_shuffleBy index items.toArray (items.length - 1) s

end TextGen.Source
