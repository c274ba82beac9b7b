import Mathlib
import TextGen.Proofs.Number.Rounding
import TextGen.Proofs.Script.Covering

/-! Policies in order deal whole rounds.
A round is an order of the options, and the next one begins when all options are picked. So in every
round each alternative is picked as often as its weight says, and a shuffled round does not begin
with the last pick of the round before. A new shuffled round needs an order for this, and what is
said here is said of picks that come to their end. -/
namespace TextGen.Script

/- How often an alternative stands among the options. -/

theorem length_optionsFrom (first : Nat) (weights : List Float) :
    (optionsFrom first weights).length = (weights.map copies).sum := by
  induction weights generalizing first with
  | nil => rfl
  | cons w weights ih =>
    simp only [optionsFrom, List.length_append, List.length_replicate, ih, List.map_cons,
      List.sum_cons]

theorem count_optionsFrom (first : Nat) (weights : List Float) {i : Nat}
    (inside : i < weights.length) :
    (optionsFrom first weights).count (first + i) = copies weights[i] := by
  induction weights generalizing first i with
  | nil => cases inside
  | cons w weights ih =>
    simp only [optionsFrom, List.count_append, List.count_replicate]
    cases i with
    | zero =>
      have later : first ∉ optionsFrom (first + 1) weights := by
        rw [mem_optionsFrom]
        omega
      simpa using List.count_eq_zero_of_not_mem later
    | succ i =>
      have rest := ih (first + 1) (Nat.lt_of_succ_lt_succ inside)
      rw [Nat.add_assoc, Nat.add_comm 1] at rest
      simpa using rest

theorem optionsFrom_eq_flatMap (first : Nat) (weights : List Float) :
    optionsFrom first weights =
      (weights.zipIdx first).flatMap fun (w, i) => List.replicate (copies w) i := by
  induction weights generalizing first with
  | nil => rfl
  | cons w weights ih => simp only [optionsFrom, ih, List.zipIdx_cons, List.flatMap_cons]

/-- The number of copies is the weight, rounded, and at least 1. It is not more than a machine word
can count. -/
theorem copies_of_finite {w : Float} {p : Number.Parts} (h : Number.shape w = .finite p) :
    (copies w : ℤ) = max 1 (min ((UInt64.size - 1 : Nat) : ℤ) (round p.value)) := by
  have rounded := Number.roundToNat_of_finite (UInt64.size - 1) h
  unfold copies
  generalize UInt64.size - 1 = bound at rounded ⊢
  omega

namespace ChoiceState

/- A round. -/

/-- The state after so many picks of a round, in which the options stand in the given order. -/
structure Deals (round : List Nat) (dealt : Nat) (c : ChoiceState) : Prop where
  policy : c.policy = .randomSequence
  many : 2 ≤ c.weights.length
  options : c.options = round
  served : c.served = dealt

theorem pick_of_randomSequence {c : ChoiceState} (policy : c.policy = .randomSequence) (s : Source) :
    c.pick s = (c.renew s).andThen fun _ (c, s) => (.ok c.advance.1, c.advance.2, s) := by
  unfold pick
  rw [policy]

theorem renew_of_lt {c : ChoiceState} (more : c.served < c.options.length) (s : Source) :
    c.renew s = (.ok (), c, s) := by
  unfold renew
  exact if_pos more

theorem Deals.select {round : List Nat} {dealt : Nat} {c : ChoiceState} (h : Deals round dealt c)
    (more : dealt < round.length) (s : Source) :
    (c.select s).1 = .ok (some round[dealt]) ∧ Deals round (dealt + 1) (c.select s).2.1 := by
  obtain ⟨policy, many, rfl, rfl⟩ := h
  rw [select_of_many many, pick_of_randomSequence policy, renew_of_lt more]
  refine ⟨?_, policy, many, rfl, rfl⟩
  simp [advance, Nat.mod_eq_of_lt more, more]

theorem Deals.picks {round : List Nat} {dealt : Nat} {c : ChoiceState} (h : Deals round dealt c)
    (sources : List Source) (few : dealt + sources.length ≤ round.length) :
    c.picks sources = ((round.drop dealt).take sources.length).map (.ok ∘ some) ∧
      Deals round (dealt + sources.length) (c.after sources) := by
  induction sources generalizing c dealt with
  | nil => exact ⟨by simp [ChoiceState.picks], h⟩
  | cons s more ih =>
    rw [List.length_cons] at few ⊢
    have inside : dealt < round.length := by omega
    obtain ⟨drawn, next⟩ := h.select inside s
    obtain ⟨picked, left⟩ := ih next (by omega)
    constructor
    · rw [ChoiceState.picks, drawn, picked, List.drop_eq_getElem_cons inside]
      rfl
    · rw [← Nat.add_assoc, Nat.add_right_comm]
      exact left

/- One round after the other. -/

/-- A state before a round of the given options: no pick has been made, or the last round is
over. -/
def Ready (all : List Nat) (c : ChoiceState) : Prop :=
  ∃ round dealt, Deals round dealt c ∧ round.Perm all ∧
    (dealt = 0 ∧ c.last = none ∨ dealt = round.length)

theorem ready_create {weights : List Float} (many : 2 ≤ weights.length) (id : Nat) (s : Source) :
    Ready (optionsFrom 0 weights) (create id weights .randomSequence s).1 := by
  have order := perm_create id weights .randomSequence s
  obtain ⟨weighted, policy⟩ := create_kind id weights .randomSequence s
  have started : (create id weights .randomSequence s).1.served = 0 ∧
      (create id weights .randomSequence s).1.last = none := by
    unfold create
    generalize (if Policy.randomSequence = .randomSequence then _ else _) = ordered
    exact ⟨rfl, rfl⟩
  refine ⟨_, 0, ⟨policy, ?_, rfl, started.1⟩, order, .inl ⟨rfl, started.2⟩⟩
  rw [weighted]
  exact many

theorem select_of_renew {c c' : ChoiceState} {s s' : Source} (policy : c.policy = .randomSequence)
    (many : 2 ≤ c.weights.length) (renewed : c.renew s = (.ok (), c', s'))
    (more : c'.served < c'.options.length) : c.select s = c'.select s' := by
  obtain ⟨weights, kept⟩ := c.renew_kind s
  rw [renewed] at weights kept
  rw [← weights] at many
  rw [select_of_many many, select_of_many (weights ▸ many), pick_of_randomSequence policy,
    pick_of_randomSequence (kept.trans policy), renewed, renew_of_lt more]

/-- A pick comes to its end within a round, and if the first order that is tried can be taken. -/
theorem exists_select {c : ChoiceState} (policy : c.policy = .randomSequence) {s : Source}
    (free : c.served < c.options.length ∨ (s.shuffle c.options).1.head? ≠ c.last) :
    ∃ i, (c.select s).1 = .ok i := by
  cases picked : (c.select s).1 with
  | ok i => exact ⟨i, rfl⟩
  | error f =>
    have breaks := ((c.select_error_iff s f).mp picked).2
    cases f with
    | overflow =>
      rw [show c.policy = _ from breaks.1] at policy
      cases policy
    | endless =>
      obtain ⟨_, ended, never⟩ := breaks
      rcases free with more | apart
      · omega
      · exact absurd (never 0) apart

/-- All picks that are made with the sources come to their end. -/
def Returns (c : ChoiceState) (sources : List Source) : Prop :=
  ∀ pick ∈ c.picks sources, ∃ i, pick = .ok i

theorem Returns.cons_iff {c : ChoiceState} {s : Source} {more : List Source} :
    c.Returns (s :: more) ↔ (∃ i, (c.select s).1 = .ok i) ∧ (c.select s).2.1.Returns more := by
  rw [Returns, ChoiceState.picks, List.forall_mem_cons]
  exact Iff.rfl

theorem Returns.append_iff {c : ChoiceState} {sources more : List Source} :
    c.Returns (sources ++ more) ↔ c.Returns sources ∧ (c.after sources).Returns more := by
  induction sources generalizing c with
  | nil => simp [Returns, ChoiceState.picks, ChoiceState.after]
  | cons s sources ih =>
    rw [List.cons_append, Returns.cons_iff, Returns.cons_iff, ih, ChoiceState.after, and_assoc]

theorem exists_renew {c : ChoiceState} (policy : c.policy = .randomSequence)
    (many : 2 ≤ c.weights.length) (ended : c.served = c.options.length) {s : Source}
    (returned : ∃ i, (c.select s).1 = .ok i) :
    ∃ next s', c.renew s = (.ok (), { c with options := next, served := 0 }, s') ∧
      next.Perm c.options ∧ next.head? ≠ c.last := by
  obtain ⟨i, picked⟩ := returned
  rcases c.renew_cases s with ⟨more, _⟩ | ⟨_, ⟨k, apart, renewed⟩ | ⟨_, failed⟩⟩
  · omega
  · exact ⟨_, _, renewed, perm_order c.options s k, apart⟩
  · rw [select_of_many many, pick_of_randomSequence policy, failed] at picked
    cases picked

theorem Ready.begins {all : List Nat} {c : ChoiceState} (h : Ready all c) (some_ : all ≠ [])
    {s : Source} (returned : ∃ i, (c.select s).1 = .ok i) :
    ∃ next c' s', next.Perm all ∧ next.head? ≠ c.last ∧ Deals next 0 c' ∧
      c.select s = c'.select s' := by
  obtain ⟨round, dealt, ⟨policy, many, rfl, served⟩, order, ⟨rfl, fresh⟩ | rfl⟩ := h
  · have begun : c.options ≠ [] :=
      List.ne_nil_of_length_pos (order.length_eq ▸ List.length_pos_of_ne_nil some_)
    refine ⟨c.options, c, s, order, ?_, ⟨policy, many, rfl, served⟩, rfl⟩
    rw [fresh, List.head?_eq_some_head begun]
    exact Option.some_ne_none _
  · obtain ⟨next, s', renewed, shuffled, head⟩ := exists_renew policy many served returned
    have new : next.Perm all := shuffled.trans order
    have inside : 0 < next.length := new.length_eq ▸ List.length_pos_of_ne_nil some_
    exact ⟨next, { c with options := next, served := 0 }, s', new, head,
      ⟨policy, many, rfl, rfl⟩, select_of_renew policy many renewed inside⟩

theorem Ready.select_ne {all : List Nat} {c : ChoiceState} (h : Ready all c) (some_ : all ≠ [])
    {s : Source} (returned : ∃ i, (c.select s).1 = .ok i) : (c.select s).1 ≠ .ok c.last := by
  obtain ⟨next, c', s', order, head, deals, same⟩ := h.begins some_ returned
  have inside : 0 < next.length := order.length_eq ▸ List.length_pos_of_ne_nil some_
  rw [same, (deals.select inside s').1, ← List.getElem?_eq_getElem inside, ← List.head?_eq_getElem?]
  exact fun same => head (Except.ok.inj same)

theorem Ready.picks {all : List Nat} {c : ChoiceState} (h : Ready all c) (filled : all ≠ [])
    {sources : List Source} (returned : c.Returns sources) (some_ : sources ≠ [])
    (few : sources.length ≤ all.length) :
    ∃ next : List Nat, next.Perm all ∧ next.head? ≠ c.last ∧
      c.picks sources = (next.take sources.length).map (.ok ∘ some) ∧
      (sources.length = all.length → Ready all (c.after sources)) := by
  obtain ⟨s, more, rfl⟩ := List.exists_cons_of_ne_nil some_
  obtain ⟨next, c', s', order, head, deals, same⟩ :=
    h.begins filled (Returns.cons_iff.mp returned).1
  have length := order.length_eq
  -- The renewed state has a source of its own for the first pick.
  have picked : c.picks (s :: more) = c'.picks (s' :: more) := by
    rw [ChoiceState.picks, ChoiceState.picks, same]
  have left : c.after (s :: more) = c'.after (s' :: more) := by
    rw [ChoiceState.after, ChoiceState.after, same]
  obtain ⟨dealt, done⟩ := deals.picks (s' :: more) (by simpa [length] using few)
  rw [List.drop_zero, Nat.zero_add] at *
  refine ⟨next, order, head, picked.trans dealt, fun whole => ?_⟩
  rw [left]
  exact ⟨next, _, done, order, .inr (whole.trans length.symm)⟩

theorem Ready.after {all : List Nat} {c : ChoiceState} (h : Ready all c) (filled : all ≠ [])
    (r : Nat) {sources : List Source} (returned : c.Returns sources)
    (length : sources.length = r * all.length) : Ready all (c.after sources) := by
  induction r generalizing c sources with
  | zero =>
    rw [Nat.zero_mul] at length
    rw [List.eq_nil_of_length_eq_zero length]
    exact h
  | succ r ih =>
    have positive : 0 < all.length := List.length_pos_of_ne_nil filled
    rw [Nat.succ_mul] at length
    have first : (sources.take all.length).length = all.length := by
      rw [List.length_take]
      omega
    have rest : (sources.drop all.length).length = r * all.length := by
      rw [List.length_drop]
      omega
    have some_ : sources.take all.length ≠ [] := List.ne_nil_of_length_pos (by omega)
    rw [← List.take_append_drop all.length sources] at returned ⊢
    obtain ⟨now, later⟩ := Returns.append_iff.mp returned
    obtain ⟨_, _, _, _, ready⟩ := h.picks filled now some_ first.le
    rw [after_append]
    exact ih (ready first) later rest

end ChoiceState

/- Rounds. -/

def roundSize (weights : List Float) : Nat := (weights.map copies).sum

/-- The picks of a round; the first round has the number 0. -/
def roundAt (weights : List Float) (r : Nat) (picked : List (Except Failure (Option Nat))) :
    List (Except Failure (Option Nat)) :=
  (picked.drop (r * roundSize weights)).take (roundSize weights)

theorem roundSize_pos {weights : List Float} (some_ : weights ≠ []) : 0 < roundSize weights := by
  rw [roundSize, ← length_optionsFrom 0]
  exact length_optionsFrom_pos some_

theorem roundAt_picks (weights : List Float) (r : Nat) (c : ChoiceState) (sources : List Source) :
    roundAt weights r (c.picks sources) = (c.after (sources.take (r * roundSize weights))).picks
      ((sources.drop (r * roundSize weights)).take (roundSize weights)) := by
  rw [roundAt, ChoiceState.picks_drop, ChoiceState.picks_take]

theorem length_roundAt {weights : List Float} {r : Nat}
    {picked : List (Except Failure (Option Nat))}
    (enough : (r + 1) * roundSize weights ≤ picked.length) :
    (roundAt weights r picked).length = roundSize weights := by
  rw [Nat.succ_mul] at enough
  rw [roundAt, List.length_take, List.length_drop]
  omega

section

variable {weights : List Float} (many : 2 ≤ weights.length) (id : Nat) (s : Source)
  (sources : List Source)

theorem roundAt_sequence {r : Nat} (enough : (r + 1) * roundSize weights ≤ sources.length) :
    roundAt weights r ((ChoiceState.create id weights .sequence s).1.picks sources) =
      (optionsFrom 0 weights).map (.ok ∘ some) := by
  have size : roundSize weights = (optionsFrom 0 weights).length :=
    (length_optionsFrom 0 weights).symm
  have picked := (ChoiceState.serves_create id weights s).picks sources
  generalize (ChoiceState.create id weights .sequence s).1 = c at picked ⊢
  have length := c.length_picks sources
  apply List.ext_getElem
  · rw [length_roundAt (by rwa [length]), List.length_map, size]
  · intro j _ inside
    rw [List.length_map] at inside
    rw [Nat.succ_mul] at enough
    have place : (0 + (r * roundSize weights + j)) % (optionsFrom 0 weights).length = j := by
      rw [Nat.zero_add, size, Nat.mul_add_mod_self_right, Nat.mod_eq_of_lt inside]
    have here := picked (r * roundSize weights + j) (by omega)
    rw [place, List.getElem?_eq_getElem inside] at here
    simpa [roundAt] using here

include many in
theorem options_ne_nil : optionsFrom 0 weights ≠ [] :=
  List.ne_nil_of_length_pos (length_optionsFrom_pos (List.ne_nil_of_length_pos (by omega)))

variable (returned : (ChoiceState.create id weights .randomSequence s).1.Returns sources)

include many returned

theorem ready_randomSequence {r : Nat} (enough : r * roundSize weights ≤ sources.length) :
    ((ChoiceState.create id weights .randomSequence s).1.after
      (sources.take (r * roundSize weights))).Ready (optionsFrom 0 weights) := by
  rw [← List.take_append_drop (r * roundSize weights) sources] at returned
  apply (ChoiceState.ready_create many id s).after (options_ne_nil many) r
    (ChoiceState.Returns.append_iff.mp returned).1
  rw [List.length_take, length_optionsFrom]
  exact min_eq_left enough

theorem roundAt_randomSequence {r : Nat} (enough : (r + 1) * roundSize weights ≤ sources.length) :
    (roundAt weights r ((ChoiceState.create id weights .randomSequence s).1.picks sources)).Perm
      ((optionsFrom 0 weights).map (.ok ∘ some)) := by
  have size : roundSize weights = (optionsFrom 0 weights).length :=
    (length_optionsFrom 0 weights).symm
  have positive : 0 < roundSize weights := roundSize_pos (List.ne_nil_of_length_pos (by omega))
  have whole : ((sources.drop (r * roundSize weights)).take (roundSize weights)).length =
      roundSize weights := by
    rw [Nat.succ_mul] at enough
    simp only [List.length_take, List.length_drop]
    omega
  have ready := ready_randomSequence many id s sources returned
    ((Nat.mul_le_mul_right _ (Nat.le_succ r)).trans enough)
  have now : ((ChoiceState.create id weights .randomSequence s).1.after
      (sources.take (r * roundSize weights))).Returns
        ((sources.drop (r * roundSize weights)).take (roundSize weights)) := by
    rw [← List.take_append_drop (r * roundSize weights) sources,
      ← List.take_append_drop (roundSize weights) (sources.drop _)] at returned
    exact (ChoiceState.Returns.append_iff.mp (ChoiceState.Returns.append_iff.mp returned).2).1
  obtain ⟨next, order, _, picked, _⟩ := ready.picks (options_ne_nil many) now
    (List.ne_nil_of_length_pos (positive.trans_eq whole.symm)) (whole.trans size).le
  have all : next.take (roundSize weights) = next :=
    List.take_of_length_le (order.length_eq.trans size.symm).le
  simp only [roundAt_picks, picked, whole, all]
  exact order.map _

theorem picks_apart {r : Nat} (later : 0 < r) (begun : r * roundSize weights < sources.length) :
    ((ChoiceState.create id weights .randomSequence s).1.picks sources)[r * roundSize weights]? ≠
      ((ChoiceState.create id weights .randomSequence s).1.picks sources)[
        r * roundSize weights - 1]? := by
  have ready := ready_randomSequence many id s sources returned begun.le
  have chosen : 2 ≤ (ChoiceState.create id weights .randomSequence s).1.weights.length := by
    rw [(ChoiceState.create_kind id weights .randomSequence s).1]
    exact many
  have size : 0 < r * roundSize weights :=
    Nat.mul_pos later (roundSize_pos (List.ne_nil_of_length_pos (by omega)))
  generalize r * roundSize weights = n at *
  generalize (ChoiceState.create id weights .randomSequence s).1 = c at *
  obtain ⟨next, rest, split⟩ := List.exists_cons_of_ne_nil
    (List.ne_nil_of_length_pos (l := sources.drop n) (by rw [List.length_drop]; omega))
  have first : (c.picks sources)[n]? = some ((c.after (sources.take n)).select next).1 := by
    have here := congrArg (·[0]?) (c.picks_drop sources n)
    rw [split] at here
    simpa [ChoiceState.picks] using here
  rw [← List.take_append_drop n sources] at returned
  obtain ⟨past, now⟩ := ChoiceState.Returns.append_iff.mp returned
  rw [split] at now
  have before : (c.picks sources)[n - 1]? = some (.ok (c.after (sources.take n)).last) := by
    have here := ChoiceState.getLast?_picks chosen past
      (List.ne_nil_of_length_pos (l := sources.take n) (by rw [List.length_take]; omega))
    rw [← c.picks_take, List.getLast?_eq_getElem?, List.length_take, c.length_picks,
      min_eq_left begun.le, List.getElem?_take_of_lt (by omega)] at here
    exact here
  rw [first, before]
  exact fun same => ready.select_ne (options_ne_nil many)
    (ChoiceState.Returns.cons_iff.mp now).1 (Option.some.inj same)

end

/-- Among two alternatives or more, a policy in order deals whole rounds, whatever sources it draws
from, if its picks come to their end; in sequence they do. In each round every alternative is picked
as often as its weight says, which is the weight rounded to a whole number, and at least once. In
sequence all rounds are the alternatives in order; shuffled rounds do not begin with the last pick of
the round before. -/
theorem rounds_are_dealt {weights : List Float} (many : 2 ≤ weights.length) {policy : Policy}
    (ordered : policy = .sequence ∨ policy = .randomSequence) (id : Nat) (s : Source)
    (sources : List Source) (returned : policy = .randomSequence →
      (ChoiceState.create id weights policy s).1.Returns sources) :
    let picked := (ChoiceState.create id weights policy s).1.picks sources
    (∀ w ∈ weights, ∀ p, Number.shape w = .finite p →
      (copies w : ℤ) = max 1 (min ((UInt64.size - 1 : Nat) : ℤ) (round p.value))) ∧
    (∀ r, (r + 1) * roundSize weights ≤ sources.length →
      (∀ i (inside : i < weights.length),
        (roundAt weights r picked).count (.ok (some i)) = copies weights[i]) ∧
      (policy = .sequence → roundAt weights r picked =
        weights.zipIdx.flatMap fun (w, i) => List.replicate (copies w) (.ok (some i)))) ∧
    (policy = .randomSequence → ∀ r, 0 < r → r * roundSize weights < sources.length →
      picked[r * roundSize weights]? ≠ picked[r * roundSize weights - 1]?) := by
  intro picked
  refine ⟨fun w _ p => copies_of_finite, fun r enough => ⟨fun i inside => ?_, fun sequence => ?_⟩,
    fun shuffled r later begun => ?_⟩
  · have dealt : (roundAt weights r picked).Perm ((optionsFrom 0 weights).map (.ok ∘ some)) := by
      rcases ordered with rfl | rfl
      · exact .of_eq (roundAt_sequence id s sources enough)
      · exact roundAt_randomSequence many id s sources (returned rfl) enough
    have own : Function.Injective (Except.ok ∘ some : Nat → Except Failure (Option Nat)) :=
      fun i j same => Option.some.inj (Except.ok.inj same)
    rw [dealt.count_eq, ← Function.comp_apply (f := Except.ok) (g := some),
      List.count_map_of_injective _ _ own]
    have counted := count_optionsFrom 0 weights inside
    rwa [Nat.zero_add] at counted
  · subst sequence
    rw [roundAt_sequence id s sources enough, optionsFrom_eq_flatMap, List.map_flatMap]
    simp only [List.map_replicate, Function.comp_apply]
  · subst shuffled
    exact picks_apart many id s sources (returned rfl) later begun

theorem rounds_are_dealt_of_two_weights :
    let weights : List Float := [2.0, 0.25]
    let two : Number.Parts := ⟨false, Number.leadingOne, -51⟩
    let sources : List Source := List.replicate 7 ⟨[], 0⟩
    let start := (ChoiceState.create 1 weights .randomSequence ⟨[], 0⟩).1
    let shuffled := start.picks (sources.take 4)
    2 ≤ weights.length ∧ Number.shape 2.0 = .finite two ∧
    (copies 2.0 : ℤ) = max 1 (min ((UInt64.size - 1 : Nat) : ℤ) (round two.value)) ∧
    (1 + 1) * roundSize weights ≤ sources.length ∧
    roundAt weights 1 ((ChoiceState.create 1 weights .sequence ⟨[], 0⟩).1.picks sources) =
      [.ok (some 0), .ok (some 0), .ok (some 1)] ∧
    start.Returns (sources.take 4) ∧ (0 + 1) * roundSize weights ≤ (sources.take 4).length ∧
    (roundAt weights 0 shuffled).count (.ok (some 0)) = copies 2.0 ∧
    1 * roundSize weights < (sources.take 4).length ∧
    shuffled[1 * roundSize weights]? ≠ shuffled[1 * roundSize weights - 1]? := by
  intro weights two sources start shuffled
  have many : 2 ≤ weights.length := by decide
  have shape : Number.shape 2.0 = .finite two := by decide +kernel
  have size : roundSize weights = 3 := by decide +kernel
  have enough : (1 + 1) * roundSize weights ≤ sources.length := by
    rw [size]
    decide
  have first : (0 + 1) * roundSize weights ≤ (sources.take 4).length := by
    rw [size]
    decide
  have begun : 1 * roundSize weights < (sources.take 4).length := by
    rw [size]
    decide
  have order : weights.zipIdx.flatMap
      (fun (w, i) => List.replicate (copies w) (Except.ok (some i))) =
      [(.ok (some 0) : Except Failure (Option Nat)), .ok (some 0), .ok (some 1)] := by
    decide +kernel
  have returned : start.Returns (sources.take 4) := by
    refine ChoiceState.Returns.cons_iff.mpr ⟨ChoiceState.exists_select rfl (by decide +kernel), ?_⟩
    refine ChoiceState.Returns.cons_iff.mpr ⟨ChoiceState.exists_select rfl (by decide +kernel), ?_⟩
    refine ChoiceState.Returns.cons_iff.mpr ⟨ChoiceState.exists_select rfl (by decide +kernel), ?_⟩
    refine ChoiceState.Returns.cons_iff.mpr ⟨ChoiceState.exists_select rfl (by decide +kernel), ?_⟩
    exact fun _ mem => nomatch mem
  obtain ⟨copied, rounds, apart⟩ :=
    rounds_are_dealt many (.inr rfl) 1 ⟨[], 0⟩ (sources.take 4) fun _ => returned
  obtain ⟨_, inOrder, _⟩ := rounds_are_dealt many (.inl rfl) 1 ⟨[], 0⟩ sources nofun
  exact ⟨many, shape, copied 2.0 List.mem_cons_self two shape, enough,
    ((inOrder 1 enough).2 rfl).trans order, returned, first, (rounds 0 first).1 0 (by decide),
    begun, apart rfl 1 (by decide) begun⟩

end TextGen.Script
