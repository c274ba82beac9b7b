import Mathlib
import TextGen.Proofs.Random.Drawn
import TextGen.Script.Choice

/-! What the state of a choice picks.
The options hold every alternative at least once. In order they are picked one after the other and
then from the first again, and a pick without repetition is never the last one. -/
namespace TextGen.Script

theorem ChoiceState.byWeight_cases {weights : List Float} (some_ : weights ≠ []) (s : Source) :
    Source.Overflows weights ∧ byWeight weights s = (.error .overflow, s) ∨
    ¬ Source.Overflows weights ∧ ∃ i < weights.length, ∃ s', byWeight weights s = (.ok i, s') := by
  unfold byWeight
  rcases Source.weightedIndex?_cases weights s with ⟨overflows, failed⟩ | ⟨fits, i, s', drawn, inside⟩
  · rw [failed]
    exact .inl ⟨overflows, rfl⟩
  · rw [drawn]
    cases i with
    | none =>
      have below := Source.below_lt weights.length (List.length_pos_of_ne_nil some_) s'
      exact .inr ⟨fits, _, below, _, rfl⟩
    | some i => exact .inr ⟨fits, i, inside i rfl, s', rfl⟩

/- Options. -/

theorem copies_pos (w : Float) : 0 < copies w := by
  rw [copies]
  exact lt_max_of_lt_left Nat.zero_lt_one

theorem mem_optionsFrom {first : Nat} {weights : List Float} {i : Nat} :
    i ∈ optionsFrom first weights ↔ first ≤ i ∧ i < first + weights.length := by
  induction weights generalizing first with
  | nil => simp [optionsFrom]
  | cons w weights ih =>
    have some_ := Nat.ne_of_gt (copies_pos w)
    rw [optionsFrom, List.mem_append, List.mem_replicate, ih, List.length_cons]
    omega

theorem length_optionsFrom_pos {weights : List Float} (h : weights ≠ []) :
    0 < (optionsFrom 0 weights).length := by
  have first : 0 ∈ optionsFrom 0 weights :=
    mem_optionsFrom.mpr ⟨Nat.le_refl 0, by simpa using List.length_pos_of_ne_nil h⟩
  exact List.length_pos_of_mem first

theorem exists_other_option {weights : List Float} (many : 2 ≤ weights.length)
    (last : Option Nat) : ∃ i ∈ optionsFrom 0 weights, some i ≠ last := by
  by_cases first : some 0 = last
  · refine ⟨1, mem_optionsFrom.mpr (by omega), ?_⟩
    rw [← first]
    decide
  · exact ⟨0, mem_optionsFrom.mpr (by omega), first⟩

namespace ChoiceState

/- Kinds. -/

theorem fits_iff {c : ChoiceState} {n : Nat} {policy : Policy} :
    c.fits n policy = true ↔ c.weights.length = n ∧ c.policy = policy := by
  simp [fits]

theorem renew_kind (c : ChoiceState) (s : Source) :
    (c.renew s).2.1.weights = c.weights ∧ (c.renew s).2.1.policy = c.policy := by
  unfold renew
  split
  · exact ⟨rfl, rfl⟩
  · split <;> exact ⟨rfl, rfl⟩

theorem pick_kind (c : ChoiceState) (s : Source) :
    (c.pick s).2.1.weights = c.weights ∧ (c.pick s).2.1.policy = c.policy := by
  have kind := c.renew_kind s
  unfold pick
  generalize c.renew s = renewed at kind ⊢
  generalize byWeight c.weights s = drawn
  generalize s.item? (c.options.filter (some · ≠ c.last)) = found
  split
  · exact ⟨rfl, rfl⟩
  · exact ⟨rfl, rfl⟩
  · exact Drawn.andThen_snd
      (P := fun left : ChoiceState × Source =>
        left.1.weights = c.weights ∧ left.1.policy = c.policy) kind fun _ _ => kind
  · split <;> exact ⟨rfl, rfl⟩

theorem select_kind (c : ChoiceState) (s : Source) :
    (c.select s).2.1.weights = c.weights ∧ (c.select s).2.1.policy = c.policy := by
  have kind := c.pick_kind s
  unfold select
  split
  · exact ⟨rfl, rfl⟩
  · exact ⟨rfl, rfl⟩
  · exact Drawn.andThen_snd
      (P := fun left : ChoiceState × Source =>
        left.1.weights = c.weights ∧ left.1.policy = c.policy) kind fun _ _ => kind

theorem create_kind (id : Nat) (weights : List Float) (policy : Policy) (s : Source) :
    (create id weights policy s).1.weights = weights ∧
      (create id weights policy s).1.policy = policy := by
  unfold create
  generalize (if policy = .randomSequence then _ else _) = ordered
  exact ⟨rfl, rfl⟩

theorem select_of_many {c : ChoiceState} (many : 2 ≤ c.weights.length) (s : Source) :
    c.select s = (c.pick s).andThen fun i (c, s) => (.ok (some i), { c with last := some i }, s) := by
  unfold select
  split
  · omega
  · omega
  · rfl

theorem last_select {c : ChoiceState} (many : 2 ≤ c.weights.length) {s : Source} {i : Option Nat}
    (picked : (c.select s).1 = .ok i) : (c.select s).2.1.last = i := by
  rw [select_of_many many] at picked ⊢
  generalize c.pick s = result at picked ⊢
  obtain ⟨_ | j, c', s'⟩ := result
  · cases picked
  · exact Except.ok.inj picked

/- In order. -/

/-- The state after `turn` picks in order among alternatives with the given weights. -/
structure Serves (weights : List Float) (turn : Nat) (c : ChoiceState) : Prop where
  policy : c.policy = .sequence
  alternatives : c.weights.length = weights.length
  options : c.options = optionsFrom 0 weights
  served : 2 ≤ weights.length → c.served = turn

theorem serves_create (id : Nat) (weights : List Float) (s : Source) :
    Serves weights 0 (create id weights .sequence s).1 where
  policy := rfl
  alternatives := rfl
  options := rfl
  served := fun _ => rfl

theorem Serves.select {weights : List Float} {turn : Nat} {c : ChoiceState}
    (h : Serves weights turn c) (s : Source) :
    (c.select s).1 =
        .ok (optionsFrom 0 weights)[turn % (optionsFrom 0 weights).length]? ∧
      Serves weights (turn + 1) (c.select s).2.1 := by
  obtain ⟨policy, alternatives, options, served⟩ := h
  unfold ChoiceState.select
  split
  · rename_i none
    have empty : weights = [] := List.length_eq_zero_iff.mp (alternatives.symm.trans none)
    refine ⟨?_, policy, alternatives, options, fun many => ?_⟩
    · rw [empty]
      rfl
    · omega
  · rename_i one
    obtain ⟨w, rfl⟩ := List.length_eq_one_iff.mp (alternatives.symm.trans one)
    refine ⟨?_, policy, alternatives, options, fun many => ?_⟩
    · have below := Nat.mod_lt turn (length_optionsFrom_pos (List.cons_ne_nil w []))
      simp only [optionsFrom, List.append_nil, List.length_replicate] at below ⊢
      rw [List.getElem?_replicate, if_pos below]
    · cases many with
      | step many => cases many
  · rename_i several many
    have several : c.weights.length ≠ 0 := several
    have many : c.weights.length ≠ 1 := many
    have many : 2 ≤ weights.length := by omega
    have some_ : weights ≠ [] := by
      rintro rfl
      cases many
    have below := Nat.mod_lt turn (length_optionsFrom_pos some_)
    simp only [pick, policy, advance, options, served many, List.getElem?_eq_getElem below,
      Option.getD_some, Drawn.andThen_ok]
    exact ⟨trivial, rfl, alternatives, rfl, fun _ => rfl⟩

/- Without repetition. -/

/-- A state of which each pick is another than the last. -/
structure Avoids (weights : List Float) (c : ChoiceState) : Prop where
  policy : c.policy = .noRepeat
  alternatives : c.weights.length = weights.length
  options : c.options = optionsFrom 0 weights

theorem avoids_create (id : Nat) (weights : List Float) (s : Source) :
    Avoids weights (create id weights .noRepeat s).1 := ⟨rfl, rfl, rfl⟩

/-- The options that are not the last pick. -/
def candidates (c : ChoiceState) : List Nat := c.options.filter (some · ≠ c.last)

theorem Avoids.mem_candidates {weights : List Float} {c : ChoiceState} (h : Avoids weights c)
    {i : Nat} : i ∈ c.candidates ↔ i < weights.length ∧ some i ≠ c.last := by
  simp [candidates, h.options, mem_optionsFrom]

theorem Avoids.candidates_ne_nil {weights : List Float} {c : ChoiceState} (h : Avoids weights c)
    (many : 2 ≤ weights.length) : c.candidates ≠ [] := by
  obtain ⟨i, mem, apart⟩ := exists_other_option many c.last
  rw [mem_optionsFrom] at mem
  exact List.ne_nil_of_mem (h.mem_candidates.mpr ⟨by omega, apart⟩)

theorem Avoids.exists_candidate {weights : List Float} {c : ChoiceState} (h : Avoids weights c)
    (many : 2 ≤ weights.length) (s : Source) :
    ∃ i ∈ c.candidates, (s.item? c.candidates).1 = some i ∧ (c.select s).1 = .ok (some i) ∧
      (c.select s).2.1 = { c with last := some i } := by
  obtain ⟨i, mem, drawn⟩ := Source.item?_of_ne_nil (h.candidates_ne_nil many) s
  have picked : ∃ s', c.pick s = (.ok i, c, s') := by
    unfold pick
    rw [h.policy]
    unfold candidates at drawn
    generalize Source.item? _ _ = result at drawn
    obtain ⟨found, s'⟩ := result
    simp only at drawn
    rw [drawn]
    exact ⟨s', rfl⟩
  obtain ⟨s', picked⟩ := picked
  have several : 2 ≤ c.weights.length := many.trans_eq h.alternatives.symm
  refine ⟨i, mem, drawn, ?_⟩
  rw [select_of_many several, picked]
  exact ⟨rfl, rfl⟩

theorem Avoids.select {weights : List Float} {c : ChoiceState} (h : Avoids weights c)
    (many : 2 ≤ weights.length) (s : Source) :
    ∃ i < weights.length, (c.select s).1 = .ok (some i) ∧ c.last ≠ some i ∧
      (c.select s).2.1.last = some i ∧ Avoids weights (c.select s).2.1 := by
  obtain ⟨i, mem, _, picked, left⟩ := h.exists_candidate many s
  obtain ⟨inside, apart⟩ := h.mem_candidates.mp mem
  rw [left]
  exact ⟨i, inside, picked, apart.symm, rfl, h.policy, h.alternatives, h.options⟩

/- Many picks. -/

/-- What is picked with one source after the other. Every pick has a source of its own, so it does
not matter what else is drawn in between. -/
def picks : ChoiceState → List Source → List (Except Failure (Option Nat))
  | _, [] => []
  | c, s :: more => (c.select s).1 :: picks (c.select s).2.1 more

def after : ChoiceState → List Source → ChoiceState
  | c, [] => c
  | c, s :: more => after (c.select s).2.1 more

theorem length_picks (c : ChoiceState) (sources : List Source) :
    (c.picks sources).length = sources.length := by
  induction sources generalizing c with
  | nil => rfl
  | cons s more ih => exact congrArg (· + 1) (ih _)

theorem picks_take (c : ChoiceState) (sources : List Source) (n : Nat) :
    (c.picks sources).take n = c.picks (sources.take n) := by
  induction sources generalizing c n with
  | nil => cases n <;> rfl
  | cons s more ih =>
    cases n with
    | zero => rfl
    | succ n => exact congrArg ((c.select s).1 :: ·) (ih _ n)

theorem picks_drop (c : ChoiceState) (sources : List Source) (n : Nat) :
    (c.picks sources).drop n = (c.after (sources.take n)).picks (sources.drop n) := by
  induction sources generalizing c n with
  | nil => cases n <;> rfl
  | cons s more ih =>
    cases n with
    | zero => rfl
    | succ n => exact ih _ n

theorem after_append (c : ChoiceState) (sources more : List Source) :
    c.after (sources ++ more) = (c.after sources).after more := by
  induction sources generalizing c with
  | nil => rfl
  | cons s sources ih => exact ih _

theorem getLast?_picks {c : ChoiceState} (many : 2 ≤ c.weights.length) {sources : List Source}
    (returned : ∀ pick ∈ c.picks sources, ∃ i, pick = .ok i) (some_ : sources ≠ []) :
    (c.picks sources).getLast? = some (.ok (c.after sources).last) := by
  induction sources generalizing c with
  | nil => exact absurd rfl some_
  | cons s more ih =>
    rw [picks, List.forall_mem_cons] at returned
    obtain ⟨⟨i, picked⟩, others⟩ := returned
    cases more with
    | nil =>
      rw [picks, picks, after, after, last_select many picked, picked]
      rfl
    | cons s' more =>
      have later : 2 ≤ (c.select s).2.1.weights.length := by
        rw [(c.select_kind s).1]
        exact many
      exact (List.getLast?_cons_cons).trans (ih later others (List.cons_ne_nil s' more))

theorem Serves.picks {weights : List Float} {turn : Nat} {c : ChoiceState}
    (h : Serves weights turn c) (sources : List Source) (j : Nat)
    (inside : j < (c.picks sources).length) :
    (c.picks sources)[j] =
      .ok (optionsFrom 0 weights)[(turn + j) % (optionsFrom 0 weights).length]? := by
  induction sources generalizing c turn j with
  | nil => cases inside
  | cons s more ih =>
    obtain ⟨served, next⟩ := h.select s
    cases j with
    | zero => exact served
    | succ j =>
      have later := ih next j (Nat.lt_of_succ_lt_succ inside)
      rw [Nat.succ_add_eq_add_succ] at later
      exact later

/-- Without repetition, every pick is one of the alternatives and another than the one before. -/
theorem Avoids.picks {weights : List Float} {c : ChoiceState} (h : Avoids weights c)
    (many : 2 ≤ weights.length) (sources : List Source) :
    (.ok c.last :: c.picks sources).IsChain (· ≠ ·) ∧
      (∀ pick ∈ c.picks sources, ∃ i < weights.length, pick = .ok (some i)) ∧
      Avoids weights (c.after sources) := by
  induction sources generalizing c with
  | nil => exact ⟨.singleton _, by simp [ChoiceState.picks], h⟩
  | cons s more ih =>
    obtain ⟨i, inside, drawn, apart, kept, next⟩ := h.select many s
    obtain ⟨chain, valid, left⟩ := ih next
    rw [kept] at chain
    unfold ChoiceState.picks
    rw [drawn]
    have changed : Except.ok c.last ≠ (.ok (some i) : Except Failure (Option Nat)) :=
      fun same => apart (Except.ok.inj same)
    exact ⟨.cons_cons changed chain, List.forall_mem_cons.mpr ⟨⟨i, inside, rfl⟩, valid⟩, left⟩

end ChoiceState

end TextGen.Script
