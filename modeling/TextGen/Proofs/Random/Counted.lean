import Mathlib
import TextGen.Random.Source

/-! Every branch that was counted can be drawn.
A choice among counts takes one word. Its 52 bits are fine enough to fall into the share of each
positive count, as long as the total is not more than `2 ^ 51`, and rounding the product to a double
does not carry it out of this share. -/
namespace TextGen.Source

def fractionSteps : Nat := 4503599627370496

/- Rounding. -/

theorem roundToDouble_bounds (n : Nat) :
    n / 2 ^ (n.log2 + 1 - 53) * 2 ^ (n.log2 + 1 - 53) ≤ roundToDouble n ∧
      roundToDouble n ≤ (n / 2 ^ (n.log2 + 1 - 53) + 1) * 2 ^ (n.log2 + 1 - 53) := by
  simp only [roundToDouble, Nat.shiftRight_eq_div_pow, Nat.shiftLeft_eq]
  split
  · exact ⟨Nat.mul_le_mul_right _ (Nat.le_succ _), Nat.le_refl _⟩
  · exact ⟨Nat.le_refl _, Nat.mul_le_mul_right _ (Nat.le_succ _)⟩

theorem spacing_le (n total : Nat) (positive : 0 < total) (small : n < fractionSteps * total) :
    2 ^ (n.log2 + 1 - 53) ≤ total := by
  by_cases short : n.log2 < 52
  · have none : n.log2 + 1 - 53 = 0 := by omega
    rw [none]
    exact positive
  · have long : n ≠ 0 := by
      rintro rfl
      exact short (by decide)
    have split : 2 ^ (n.log2 + 1 - 53) * fractionSteps = 2 ^ n.log2 := by
      have exponent : n.log2 = n.log2 + 1 - 53 + 52 := by omega
      have steps : fractionSteps = 2 ^ 52 := by decide
      rw [steps, ← pow_add, ← exponent]
    have below : 2 ^ (n.log2 + 1 - 53) * fractionSteps < total * fractionSteps := by
      rw [split, Nat.mul_comm total]
      exact Nat.lt_of_le_of_lt (Nat.log2_self_le long) small
    exact Nat.le_of_lt (Nat.lt_of_mul_lt_mul_right below)

theorem roundToDouble_lt (n total : Nat) (positive : 0 < total)
    (small : n < fractionSteps * total) : roundToDouble n ≤ n + total := by
  have spacing := spacing_le n total positive small
  have upper := (roundToDouble_bounds n).2
  have floor := Nat.div_mul_le_self n (2 ^ (n.log2 + 1 - 53))
  rw [Nat.add_mul, Nat.one_mul] at upper
  omega

theorem le_roundToDouble (k n total : Nat) (positive : 0 < total)
    (small : n < fractionSteps * total) (few : total ≤ fractionSteps)
    (h : k * fractionSteps ≤ n) : k * fractionSteps ≤ roundToDouble n := by
  have spacing := spacing_le n total positive small
  have fits : 2 ^ (n.log2 + 1 - 53) ∣ fractionSteps := by
    have steps : fractionSteps = 2 ^ 52 := by decide
    rw [steps] at few ⊢
    exact pow_dvd_pow 2 ((Nat.pow_le_pow_iff_right Nat.one_lt_two).mp (spacing.trans few))
  have whole := Nat.div_mul_cancel (fits.mul_left k)
  have floor := Nat.mul_le_mul_right (2 ^ (n.log2 + 1 - 53))
    (Nat.div_le_div_right (c := 2 ^ (n.log2 + 1 - 53)) h)
  rw [whole] at floor
  exact floor.trans (roundToDouble_bounds n).1

/- Running sums. -/

theorem getLastD_runningSums {α : Type} [Add α] (a d : α) (ws : List α) :
    (runningSums a ws).getLastD d = ws.foldl (· + ·) a := by
  induction ws generalizing a d with
  | nil => rfl
  | cons w ws ih => rw [runningSums, List.getLastD_cons, ih, List.foldl_cons]

theorem getLastD_runningSums_eq_sum (c d : Nat) (cs : List Nat) :
    (runningSums c cs).getLastD d = (c :: cs).sum := by
  rw [getLastD_runningSums, List.sum_eq_foldl, List.foldl_cons, Nat.zero_add]

theorem le_of_mem_runningSums (a c : Nat) (ws : List Nat) (h : c ∈ runningSums a ws) :
    a ≤ c := by
  induction ws generalizing a with
  | nil => exact Nat.le_of_eq (List.mem_singleton.mp h).symm
  | cons w ws ih =>
    rcases List.mem_cons.mp h with rfl | h
    · exact Nat.le_refl _
    · exact (Nat.le_add_right a w).trans (ih _ h)

theorem runningSums_ne_nil (a : Nat) (ws : List Nat) : runningSums a ws ≠ [] := by
  cases ws <;> exact List.cons_ne_nil _ _

theorem countP_runningSums (p : Nat → Bool) (down : ∀ b c, b ≤ c → p c = true → p b = true)
    (a : Nat) (ws : List Nat) (i : Nat) (inside : i ≤ ws.length)
    (passed : ∀ j < i, p (a + (ws.take j).sum) = true)
    (failed : i < ws.length → p (a + (ws.take i).sum) = false) :
    (runningSums a ws).dropLast.countP p = i := by
  induction ws generalizing a i with
  | nil =>
    have first : i = 0 := Nat.le_zero.mp inside
    rw [first]
    rfl
  | cons w ws ih =>
    rw [runningSums, List.dropLast_cons_of_ne_nil (runningSums_ne_nil _ _)]
    cases i with
    | zero =>
      have here : p a = false := by simpa using failed (Nat.succ_pos _)
      have later : ∀ c ∈ a :: (runningSums (a + w) ws).dropLast, ¬ p c = true := by
        intro c mem holds
        have large : a ≤ c := by
          rcases List.mem_cons.mp mem with rfl | mem
          · exact Nat.le_refl _
          · exact (Nat.le_add_right a w).trans
              (le_of_mem_runningSums _ c ws (List.dropLast_subset _ mem))
        rw [down a c large holds] at here
        cases here
      exact List.countP_eq_zero.mpr later
    | succ i =>
      have here : p a = true := by simpa using passed 0 (Nat.succ_pos i)
      rw [List.countP_cons_of_pos here]
      have rest := ih (a + w) i (Nat.le_of_succ_le_succ inside)
        (fun j less => by
          simpa [Nat.add_assoc] using passed (j + 1) (Nat.succ_lt_succ less))
        (fun less => by
          simpa [Nat.add_assoc] using failed (Nat.succ_lt_succ less))
      rw [rest]

/- Words. -/

theorem exists_word (j : Nat) (small : j < fractionSteps) :
    ∃ w : UInt64, (w >>> 12).toNat = j := by
  refine ⟨UInt64.ofNat (j * 4096), ?_⟩
  have fits : j * 4096 < 18446744073709551616 := by
    rw [fractionSteps] at small
    omega
  rw [UInt64.toNat_shiftRight, UInt64.toNat_ofNat_of_lt' fits]
  simp [Nat.shiftRight_eq_div_pow]

theorem exists_fraction (low high total : Nat) (share : low < high) (part : high ≤ total)
    (small : 2 * total ≤ fractionSteps) :
    ∃ j < fractionSteps, low * fractionSteps ≤ roundToDouble (j * total) ∧
      roundToDouble (j * total) < high * fractionSteps := by
  have positive : 0 < total := by omega
  let j := (low * fractionSteps + (total - 1)) / total
  have atLeast : low * fractionSteps ≤ j * total := by
    have remainder := Nat.div_add_mod (low * fractionSteps + (total - 1)) total
    have bound := Nat.mod_lt (low * fractionSteps + (total - 1)) positive
    rw [Nat.mul_comm] at remainder
    change j * total + _ = _ at remainder
    omega
  have atMost : j * total ≤ low * fractionSteps + (total - 1) :=
    Nat.div_mul_le_self (low * fractionSteps + (total - 1)) total
  have next : (low + 1) * fractionSteps ≤ high * fractionSteps :=
    Nat.mul_le_mul_right fractionSteps share
  have whole : high * fractionSteps ≤ total * fractionSteps :=
    Nat.mul_le_mul_right fractionSteps part
  rw [Nat.add_mul, Nat.one_mul] at next
  have product : j * total < fractionSteps * total := by
    rw [Nat.mul_comm fractionSteps]
    omega
  refine ⟨j, Nat.lt_of_mul_lt_mul_right product, ?_, ?_⟩
  · exact le_roundToDouble low _ total positive product (by omega) atLeast
  · have rounded := roundToDouble_lt (j * total) total positive product
    omega

theorem countedIndex?_reaches (counts : List Nat) (i : Nat) (count : Nat)
    (here : counts[i]? = some count) (counted : 0 < count)
    (small : 2 * counts.sum ≤ fractionSteps) :
    ∃ w, ∀ queue state, countedIndex? counts ⟨w :: queue, state⟩ = (some i, ⟨queue, state⟩) := by
  have sumTo : (counts.take (i + 1)).sum = (counts.take i).sum + count := by
    rw [List.take_add_one, here, List.sum_append]
    rfl
  have part : (counts.take (i + 1)).sum ≤ counts.sum := by
    have split := List.sum_take_add_sum_drop counts (i + 1)
    omega
  obtain ⟨j, fits, low, high⟩ :=
    exists_fraction (counts.take i).sum (counts.take (i + 1)).sum counts.sum (by omega) part small
  obtain ⟨w, word⟩ := exists_word j fits
  refine ⟨w, fun queue state => ?_⟩
  cases counts with
  | nil => cases here
  | cons c cs =>
    have total : (runningSums c cs).getLastD c = (c :: cs).sum :=
      getLastD_runningSums_eq_sum c c cs
    have nonzero : (c :: cs).sum ≠ 0 := by omega
    have inside : i ≤ cs.length := by
      have bound := (List.getElem?_eq_some_iff.mp here).1
      exact Nat.le_of_lt_succ bound
    have steps : ∀ b, b <<< 52 = b * fractionSteps := fun b => by
      rw [Nat.shiftLeft_eq, fractionSteps]
    have chosen : (runningSums c cs).dropLast.countP
        (fun b => decide (b <<< 52 ≤ roundToDouble (j * (c :: cs).sum))) = i := by
      apply countP_runningSums
      · intro a b less holds
        have le := of_decide_eq_true holds
        rw [steps] at le
        refine decide_eq_true ?_
        rw [steps]
        exact (Nat.mul_le_mul_right _ less).trans le
      · exact inside
      · intro k less
        have upTo : ((c :: cs).take (k + 1)).sum ≤ ((c :: cs).take i).sum :=
          (List.take_sublist_take_left less).sum_le_sum fun _ _ => Nat.zero_le _
        refine decide_eq_true ?_
        rw [steps]
        exact (Nat.mul_le_mul_right fractionSteps upTo).trans low
      · intro _
        refine decide_eq_false ?_
        rw [steps]
        exact Nat.not_le_of_lt high
    simp only [countedIndex?, next, total, if_neg nonzero, word, chosen]

theorem length_runningSums {α : Type} [Add α] (a : α) (ws : List α) :
    (runningSums a ws).length = ws.length + 1 := by
  induction ws generalizing a with
  | nil => rfl
  | cons w ws ih => rw [runningSums, List.length_cons, ih, List.length_cons]

theorem countedIndex?_lt {counts : List Nat} {s s' : Source} {i : Nat}
    (h : countedIndex? counts s = (some i, s')) : i < counts.length := by
  cases counts with
  | nil => cases h
  | cons c cs =>
    rw [countedIndex?] at h
    split at h
    · cases h
    · cases h
      have few := List.countP_le_length (l := (runningSums c cs).dropLast)
        (p := fun b => decide (b <<< 52 ≤ roundToDouble ((s.next.1 >>> 12).toNat *
          (runningSums c cs).getLastD c)))
      rw [List.length_dropLast, length_runningSums] at few
      exact Nat.lt_succ_of_le few

theorem sum_of_countedIndex?_eq_none {counts : List Nat} {s s' : Source}
    (h : countedIndex? counts s = (none, s')) : counts.sum = 0 := by
  cases counts with
  | nil => rfl
  | cons c cs =>
    rw [countedIndex?] at h
    split at h
    · rename_i zero
      rwa [getLastD_runningSums_eq_sum] at zero
    · cases h

theorem countedIndex?_singleton (count : Nat) (counted : 0 < count) (s : Source) :
    countedIndex? [count] s = (some 0, s.next.2) := by
  have nonzero : (runningSums count []).getLastD count ≠ 0 := Nat.ne_of_gt counted
  rw [countedIndex?, if_neg nonzero]
  rfl

end TextGen.Source
