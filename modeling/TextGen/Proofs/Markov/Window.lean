import Mathlib
import TextGen.Proofs.Markov.Training

/-! Windows of batches.
A window is a run of tokens inside one batch. It is counted once for every place at which it
begins; it never reaches from one batch into the next. -/
namespace TextGen.Markov

/-- The number of places of a batch at which the tokens stand. -/
def placesIn (w batch : List String) : Nat :=
  (List.range batch.length).countP fun i => w <+: batch.drop i

/-- The number of places of all batches at which the tokens stand. -/
def places (w : List String) (batches : List (List String)) : Nat :=
  (batches.map (placesIn w)).sum

/-- The nonempty runs of at most `n` tokens of a batch. -/
def IsWindow (n : Nat) (batches : List (List String)) (w : List String) : Prop :=
  w ≠ [] ∧ w.length ≤ n ∧ ∃ batch ∈ batches, w <:+: batch

/-- The tokens of all batches, which is the number of places where a window can begin. -/
def tokenCount (batches : List (List String)) : Nat := (batches.map List.length).sum

@[simp] theorem placesIn_nil (w : List String) : placesIn w [] = 0 := rfl

theorem placesIn_cons (w : List String) (token : String) (batch : List String) :
    placesIn w (token :: batch) =
      (if w <+: token :: batch then 1 else 0) + placesIn w batch := by
  have shifted : ∀ i, (token :: batch).drop (i + 1) = batch.drop i := fun _ => rfl
  simp only [placesIn, List.length_cons, List.range_succ_eq_map, List.countP_cons,
    List.countP_map, Function.comp_def, shifted, List.drop_zero, decide_eq_true_eq]
  exact Nat.add_comm _ _

theorem placesIn_pos_iff (w : List String) (nonempty : w ≠ []) (batch : List String) :
    0 < placesIn w batch ↔ w <:+: batch := by
  induction batch with
  | nil => simp [nonempty]
  | cons token batch ih =>
    rw [placesIn_cons, List.infix_cons_iff, ← ih]
    by_cases h : w <+: token :: batch
    · rw [if_pos h]
      exact ⟨fun _ => .inl h, fun _ => by omega⟩
    · rw [if_neg h, Nat.zero_add]
      exact (or_iff_right h).symm

theorem placesIn_le_length (w batch : List String) : placesIn w batch ≤ batch.length := by
  have h := List.countP_le_length (p := fun i => decide (w <+: batch.drop i))
    (l := List.range batch.length)
  rwa [List.length_range] at h

@[simp] theorem places_nil (w : List String) : places w [] = 0 := rfl

@[simp] theorem places_cons (w batch : List String) (rest : List (List String)) :
    places w (batch :: rest) = placesIn w batch + places w rest := by
  simp [places]

theorem places_pos_iff (w : List String) (nonempty : w ≠ []) (batches : List (List String)) :
    0 < places w batches ↔ ∃ batch ∈ batches, w <:+: batch := by
  induction batches with
  | nil => simp
  | cons batch rest ih =>
    rw [places_cons, Nat.add_pos_iff_pos_or_pos, placesIn_pos_iff w nonempty, ih]
    simp only [List.mem_cons, exists_eq_or_imp]

theorem places_le_tokenCount (w : List String) (batches : List (List String)) :
    places w batches ≤ tokenCount batches := by
  induction batches with
  | nil => simp
  | cons batch rest ih =>
    have here := placesIn_le_length w batch
    simp only [places_cons, tokenCount, List.map_cons, List.sum_cons] at ih ⊢
    omega

/- What a load keeps of its batch. -/

theorem mem_kept (t : Tokenizer) (l : Load) (token : String) (other : token ≠ marker)
    (mem : token ∈ l.batch t) : token ∈ l.kept t := by
  cases l with
  | tokens _ => exact mem
  | sentences _ => exact List.mem_filter.mpr ⟨mem, decide_eq_true other⟩
  | text _ => exact List.mem_filter.mpr ⟨mem, decide_eq_true other⟩

theorem kept_eq_filter (t : Tokenizer) (l : Load)
    (clean : ∀ ts, l = .tokens ts → marker ∉ ts) :
    l.kept t = (l.batch t).filter (· ≠ marker) := by
  cases l with
  | tokens ts =>
    refine (List.filter_eq_self.mpr fun token mem => ?_).symm
    exact decide_eq_true fun same => clean ts rfl (same ▸ mem)
  | sentences _ => rfl
  | text _ => rfl

end TextGen.Markov
