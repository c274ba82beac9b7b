import Mathlib
import TextGen.Proofs.Script.Picks
import TextGen.Proofs.Script.Visits
import TextGen.Proofs.Random.Shuffled

/-! A choice with alternatives picks one, unless its draw fails.
The options of a state are its alternatives, each at least once, in whatever order. Picking and
shuffling keep this, so a state that is found at a place serves every choice that it fits, whichever
choice has made it, and no pick is beyond the alternatives. A draw fails where weights have no finite
sum, and where no order that is tried begins otherwise than the last round has ended. -/
namespace TextGen.Script

namespace ChoiceState

/- Orders. -/

theorem perm_create (id : Nat) (weights : List Float) (policy : Policy) (s : Source) :
    (create id weights policy s).1.options.Perm (optionsFrom 0 weights) := by
  have shuffled := s.perm_shuffle (optionsFrom 0 weights)
  unfold create
  dsimp only
  split
  · exact shuffled
  · exact .refl _

def order (options : List Nat) (s : Source) : Nat → List Nat × Source
  | 0 => s.shuffle options
  | k + 1 => (order options s k).2.shuffle (order options s k).1

theorem perm_order (options : List Nat) (s : Source) (k : Nat) :
    (order options s k).1.Perm options := by
  induction k with
  | zero => exact s.perm_shuffle options
  | succ k ih => exact (Source.perm_shuffle _ _).trans ih

theorem order_succ (options : List Nat) (s : Source) (k : Nat) :
    order options s (k + 1) = order (s.shuffle options).1 (s.shuffle options).2 k := by
  induction k with
  | zero => rfl
  | succ k ih => rw [order, ih, order]

theorem reshuffle_eq (last : Option Nat) (options : List Nat) (s : Source) :
    s.reshuffle last options =
      if (s.shuffle options).1.head? ≠ last then some (s.shuffle options)
      else (s.shuffle options).2.reshuffle last (s.shuffle options).1 := by
  rw [Source.reshuffle]

theorem reshuffle_of_order {last : Option Nat} {options : List Nat} {s : Source} {k : Nat}
    (earlier : ∀ j < k, (order options s j).1.head? = last)
    (apart : (order options s k).1.head? ≠ last) :
    s.reshuffle last options = some (order options s k) := by
  induction k generalizing options s with
  | zero =>
    rw [reshuffle_eq]
    exact if_pos apart
  | succ k ih =>
    have first : (s.shuffle options).1.head? = last := earlier 0 (Nat.succ_pos k)
    have later : ∀ j < k, (order (s.shuffle options).1 (s.shuffle options).2 j).1.head? = last := by
      intro j less
      rw [← order_succ]
      exact earlier (j + 1) (Nat.succ_lt_succ less)
    rw [order_succ] at apart ⊢
    rw [reshuffle_eq, if_neg (not_not.mpr first)]
    exact ih later apart

/-- The first order is taken that does not begin with the last pick. If there is none, orders are
tried for ever. -/
theorem reshuffle_cases (last : Option Nat) (options : List Nat) (s : Source) :
    (∃ k, (order options s k).1.head? ≠ last ∧
      s.reshuffle last options = some (order options s k)) ∨
    (∀ k, (order options s k).1.head? = last) ∧ s.reshuffle last options = none := by
  by_cases never : ∀ k, (order options s k).1.head? = last
  · refine .inr ⟨never, Option.eq_none_iff_forall_ne_some.mpr fun result returned => ?_⟩
    -- by induction on the calls of a run that returns: no order that is tried can be taken
    refine Source.reshuffle.partial_correctness last
      (fun s options _ => ¬ ∀ k, (order options s k).1.head? = last)
      (fun _ ih s options result returned never => ?_) s options result returned never
    have first : (s.shuffle options).1.head? = last := never 0
    have later : ∀ k, (order (s.shuffle options).1 (s.shuffle options).2 k).1.head? = last := by
      intro k
      rw [← order_succ]
      exact never (k + 1)
    exact ih _ _ result ((if_neg (not_not.mpr first)).symm.trans returned) later
  · have some_ := not_forall.mp never
    classical
    have apart := Nat.find_spec some_
    refine .inl ⟨Nat.find some_, apart, reshuffle_of_order (fun j less => ?_) apart⟩
    exact not_not.mp (Nat.find_min some_ less)

/-- A new round is due, and no order that is tried begins otherwise than the last one has ended. -/
def Stuck (c : ChoiceState) (s : Source) : Prop :=
  c.policy = .randomSequence ∧ c.options.length ≤ c.served ∧
    ∀ k, (order c.options s k).1.head? = c.last

theorem renew_cases (c : ChoiceState) (s : Source) :
    c.served < c.options.length ∧ c.renew s = (.ok (), c, s) ∨
    c.options.length ≤ c.served ∧
      ((∃ k, (order c.options s k).1.head? ≠ c.last ∧
        c.renew s = (.ok (), { c with options := (order c.options s k).1, served := 0 },
          (order c.options s k).2)) ∨
      (∀ k, (order c.options s k).1.head? = c.last) ∧ c.renew s = (.error .endless, c, s)) := by
  unfold renew
  by_cases more : c.served < c.options.length
  · exact .inl ⟨more, if_pos more⟩
  · rw [if_neg more]
    refine .inr ⟨Nat.le_of_not_lt more, ?_⟩
    rcases reshuffle_cases c.last c.options s with ⟨k, apart, found⟩ | ⟨never, none_⟩
    · rw [found]
      exact .inl ⟨k, apart, rfl⟩
    · rw [none_]
      exact .inr ⟨never, rfl⟩

theorem perm_renew (c : ChoiceState) (s : Source) : (c.renew s).2.1.options.Perm c.options := by
  rcases c.renew_cases s with ⟨_, same⟩ | ⟨_, ⟨k, _, new⟩ | ⟨_, failed⟩⟩
  · rw [same]
  · rw [new]
    exact perm_order c.options s k
  · rw [failed]

theorem perm_pick (c : ChoiceState) (s : Source) : (c.pick s).2.1.options.Perm c.options := by
  have renewed := c.perm_renew s
  unfold pick
  generalize c.renew s = next at renewed ⊢
  generalize byWeight c.weights s = drawn
  generalize s.item? (c.options.filter (some · ≠ c.last)) = found
  split
  · exact .refl _
  · exact .refl _
  · exact Drawn.andThen_snd (P := fun left : ChoiceState × Source => left.1.options.Perm c.options)
      renewed fun _ _ => renewed
  · split <;> exact .refl _

theorem perm_select (c : ChoiceState) (s : Source) : (c.select s).2.1.options.Perm c.options := by
  have picked := c.perm_pick s
  unfold select
  split
  · exact .refl _
  · exact .refl _
  · exact Drawn.andThen_snd (P := fun left : ChoiceState × Source => left.1.options.Perm c.options)
      picked fun _ _ => picked

/- Failures. -/

/-- Why a state comes to no pick. -/
def Breaks (c : ChoiceState) (s : Source) : Failure → Prop
  | .overflow => c.policy = .weightedRandom ∧ Source.Overflows c.weights
  | .endless => c.Stuck s

theorem pick_error_iff {c : ChoiceState} (some_ : c.weights ≠ []) (s : Source) (f : Failure) :
    (c.pick s).1 = .error f ↔ c.Breaks s f := by
  unfold pick
  split
  · rename_i policy
    rcases byWeight_cases some_ s with ⟨overflows, failed⟩ | ⟨fits, i, _, s', drawn⟩
    · rw [failed]
      cases f <;> simp [Breaks, Stuck, policy, overflows]
    · rw [drawn]
      cases f <;> simp [Breaks, Stuck, policy, fits]
  · rename_i policy
    cases f <;> simp [Breaks, Stuck, policy]
  · rename_i policy
    rcases c.renew_cases s with ⟨more, same⟩ | ⟨ended, ⟨k, apart, new⟩ | ⟨never, failed⟩⟩
    · rw [same]
      cases f <;> simp [Breaks, Stuck, policy, more]
    · rw [new]
      have other : ∃ k, ¬ (order c.options s k).1.head? = c.last := ⟨k, apart⟩
      cases f <;> simp [Breaks, Stuck, policy, other]
    · rw [failed]
      cases f <;> simp [Breaks, Stuck, policy, ended, never]
  · rename_i policy
    split <;> cases f <;> simp [Breaks, Stuck, policy]

theorem select_error_iff (c : ChoiceState) (s : Source) (f : Failure) :
    (c.select s).1 = .error f ↔ 2 ≤ c.weights.length ∧ c.Breaks s f := by
  unfold select
  split
  · rename_i none_
    simp [none_]
  · rename_i one
    simp [one]
  · rename_i several many
    have several : c.weights.length ≠ 0 := several
    have many : c.weights.length ≠ 1 := many
    have enough : 2 ≤ c.weights.length := by omega
    rw [and_iff_right enough, ← pick_error_iff (List.ne_nil_of_length_pos (by omega)) s f]
    generalize c.pick s = result
    obtain ⟨_ | i, c', s'⟩ := result
    · simp only [Drawn.andThen_error, Except.error.injEq]
    · simp

/- Covering. -/

/-- Every alternative stands among the options, and nothing else does. -/
def Covers (c : ChoiceState) : Prop := ∀ i, i ∈ c.options ↔ i < c.weights.length

theorem covers_create (id : Nat) (weights : List Float) (policy : Policy) (s : Source) :
    (create id weights policy s).1.Covers := by
  intro i
  rw [(perm_create id weights policy s).mem_iff, (create_kind id weights policy s).1,
    mem_optionsFrom]
  omega

namespace Covers

variable {c c' : ChoiceState}

theorem of_perm (h : c.Covers) (order : c'.options.Perm c.options) (same : c'.weights = c.weights) :
    c'.Covers := by
  intro i
  rw [order.mem_iff, same]
  exact h i

theorem select (h : c.Covers) (s : Source) : (c.select s).2.1.Covers :=
  h.of_perm (c.perm_select s) (c.select_kind s).1

theorem options_ne_nil (h : c.Covers) (some_ : c.weights ≠ []) : c.options ≠ [] :=
  List.ne_nil_of_mem ((h 0).mpr (List.length_pos_of_ne_nil some_))

end Covers

end ChoiceState

/- Records of states. -/

/-- Every state of a record covers its alternatives. -/
def Covered (choices : Choices) : Prop := ∀ entry ∈ choices, entry.2.Covers

theorem mem_keepChoice {key : Nat × Nat} {c : ChoiceState} {choices : Choices}
    {entry : (Nat × Nat) × ChoiceState} (mem : entry ∈ Pass.keepChoice key c choices) :
    entry = (key, c) ∨ entry ∈ choices := by
  induction choices with
  | nil => exact .inl (List.mem_singleton.mp mem)
  | cons first rest ih =>
    unfold Pass.keepChoice at mem
    split at mem
    · exact (List.mem_cons.mp mem).imp_right (List.mem_cons_of_mem first)
    · rcases List.mem_cons.mp mem with rfl | mem
      · exact .inr List.mem_cons_self
      · exact (ih mem).imp_right (List.mem_cons_of_mem first)

theorem covers_of_lookup {choices : Choices} (covered : Covered choices) {place : Nat × Nat}
    {c : ChoiceState} (found : choices.lookup place = some c) : c.Covers := by
  obtain ⟨before, after, rfl, -⟩ := List.lookup_eq_some_iff.mp found
  exact covered (place, c) (by simp)

theorem Begins.covers {v : Visit} {old : Option ChoiceState} {c : ChoiceState}
    (h : Begins v old c) (kept : ∀ c ∈ old, c.Covers) : c.Covers := by
  cases h with
  | kept => exact kept c rfl
  | made => exact ChoiceState.covers_create _ _ _ _

theorem Begins.kind {v : Visit} {old : Option ChoiceState} {c : ChoiceState}
    (h : Begins v old c) : c.weights.length = v.weights.length ∧ c.policy = v.policy := by
  cases h with
  | kept fits => exact ChoiceState.fits_iff.mp fits
  | made _ s =>
    obtain ⟨weights, policy⟩ := ChoiceState.create_kind v.place.2 v.weights v.policy s
    exact ⟨congrArg List.length weights, policy⟩

theorem Runs.covered {choices after : Choices} {vs : List Visit} (h : Runs choices vs after)
    (covered : Covered choices) : Covered after := by
  induction h with
  | nil => exact covered
  | free _ _ ih => exact ih covered
  | turn _ turn _ ih =>
    apply ih
    obtain ⟨c, s, begins, _, rfl⟩ := turn
    intro entry mem
    rcases mem_keepChoice mem with rfl | mem
    · exact (begins.covers fun _ found => covers_of_lookup covered found).select s
    · exact covered entry mem

/- Passes. -/

def Pass.chooseAmong (p : Pass) (alternatives : List Alternative) (c : Chain) :
    Drawn Pass (Option Nat) :=
  Pass.choose { p with visited := p.visited + 1 } (p.visited + 1)
    (alternatives.map Alternative.weight) (Policy.ofChain c)

/-- A pass over the tree that begins in the first state arrives at the node in the second. -/
inductive Arrives (settings : Settings) : Tree → Pass → Node → Pass → Prop
  | here {n : Node} {rest : Tree} {p : Pass} : Arrives settings (n :: rest) p n p
  | later {n m : Node} {rest : Tree} {p q : Pass} {text : String}
      (returned : (visitNode settings n p).1 = .ok text)
      (h : Arrives settings rest (visitNode settings n p).2 m q) :
      Arrives settings (n :: rest) p m q
  | value {name : String} {value : Tree} {column : Nat} {inParens : Bool} {c : Chain}
      {rest : Tree} {m : Node} {p q : Pass} (h : Arrives settings value p m q) :
      Arrives settings (.assign name value column inParens c :: rest) p m q
  | body {conditions : List Condition} {body rest : Tree} {m : Node} {p q : Pass}
      (held : (p.meets conditions).1 = true) (h : Arrives settings body (p.meets conditions).2 m q) :
      Arrives settings (.guarded conditions body :: rest) p m q
  | chosen {alternatives : List Alternative} {c : Chain} {rest : Tree} {i : Nat} {a : Alternative}
      {m : Node} {p q : Pass} (pick : (p.chooseAmong alternatives c).1 = .ok (some i))
      (found : alternatives[i]? = some a)
      (h : Arrives settings a.tree (p.chooseAmong alternatives c).2 m q) :
      Arrives settings (.choice alternatives c :: rest) p m q

theorem Arrives.covered {settings : Settings} {t : Tree} {p q : Pass} {n : Node}
    (h : Arrives settings t p n q) (covered : Covered p.state.choices) :
    Covered q.state.choices := by
  induction h with
  | here => exact covered
  | @later n _ _ p _ _ _ _ ih => exact ih ((follows_nodeVisits settings 0 n p).runs.covered covered)
  | value _ ih => exact ih covered
  | @body conditions _ _ _ p _ _ _ ih =>
    exact ih ((Follows.of_frame (p.frame_meets conditions)).runs.covered covered)
  | @chosen alternatives c _ _ _ _ p _ _ _ _ ih =>
    exact ih ((Follows.choose p 0 _ _).runs.covered covered)

def Visit.IsArrival (settings : Settings) (t : Tree) (p : Pass) (v : Visit) : Prop :=
  ∃ alternatives c q, Arrives settings t p (.choice alternatives c) q ∧
    v.weights = alternatives.map Alternative.weight ∧ v.pick = (q.chooseAmong alternatives c).1

theorem Visit.IsArrival.mono {settings : Settings} {t u : Tree} {p q : Pass} {v : Visit}
    (h : v.IsArrival settings t p)
    (leads : ∀ {n r}, Arrives settings t p n r → Arrives settings u q n r) :
    v.IsArrival settings u q := by
  obtain ⟨alternatives, c, r, arrives, made⟩ := h
  exact ⟨alternatives, c, r, leads arrives, made⟩

section

variable (settings : Settings)

mutual

theorem isArrival_of_mem_treeVisits : ∀ (base : Nat) (t : Tree) (p : Pass),
    ∀ v ∈ treeVisits settings base t p, v.IsArrival settings t p
  | _, [], _, _, mem => nomatch mem
  | base, n :: rest, p, v, mem => by
    rcases List.mem_append.mp mem with mem | mem
    · exact isArrival_of_mem_nodeVisits base n p v mem rest
    · have inside := isArrival_of_mem_treeVisits (base + n.sites.length) rest
      split at mem
      · rename_i returned
        exact (inside _ v mem).mono (.later returned)
      · cases mem

theorem isArrival_of_mem_nodeVisits : ∀ (base : Nat) (n : Node) (p : Pass),
    ∀ v ∈ nodeVisits settings base n p, ∀ rest, v.IsArrival settings (n :: rest) p
  | _, .text _, _, _, mem, _ => nomatch mem
  | _, .newline, _, _, mem, _ => nomatch mem
  | _, .symbol _ _, _, _, mem, _ => nomatch mem
  | base, .choice alternatives c, p, v, mem, rest => by
    have inside := isArrival_of_mem_nthVisits (base + 1) alternatives
    rcases List.mem_cons.mp mem with rfl | mem
    · exact ⟨alternatives, c, p, .here, rfl, rfl⟩
    · split at mem
      · rename_i i pick
        obtain ⟨a, found, arrival⟩ := inside i _ v mem
        exact arrival.mono (.chosen pick found)
      · cases mem
  | base, .assign _ value _ _ _, p, v, mem, rest =>
    (isArrival_of_mem_treeVisits base value p v mem).mono .value
  | _, .dynamic _ _, _, _, mem, _ => nomatch mem
  | base, .guarded conditions body, p, v, mem, rest => by
    have inside := isArrival_of_mem_treeVisits base body
    simp only [nodeVisits] at mem
    split at mem
    · rename_i held
      exact (inside _ v mem).mono (.body held)
    · cases mem

theorem isArrival_of_mem_nthVisits : ∀ (base : Nat) (alternatives : List Alternative) (i : Nat)
    (p : Pass), ∀ v ∈ nthVisits settings base alternatives i p,
      ∃ a, alternatives[i]? = some a ∧ v.IsArrival settings a.tree p
  | _, [], _, _, _, mem => nomatch mem
  | base, .mk tree weight? :: _, 0, p, v, mem =>
    ⟨.mk tree weight?, rfl, isArrival_of_mem_treeVisits base tree p v mem⟩
  | _, .mk _ _ :: rest, i + 1, p, v, mem => isArrival_of_mem_nthVisits _ rest i p v mem

end

end

/-- Why a choice comes to no pick: the weights overflow, or the state at its place is stuck. -/
def Pass.Breaks (p : Pass) (id : Nat) (weights : List Float) (policy : Policy) : Failure → Prop
  | .overflow => policy = .weightedRandom ∧ Source.Overflows weights
  | .endless =>
    2 ≤ weights.length ∧ (p.choiceState (p.number, id) weights policy).1.Stuck
      (p.choiceState (p.number, id) weights policy).2

/-- The states to which one interpreter can come. It begins without states of choices and forgets
them when it is reset, and every pass may have bindings and a running state of its own. -/
inductive State.IsReached : State → Prop
  | start (context : Context) (run : Run) : IsReached { context, run }
  | reset {s : State} (h : IsReached s) : IsReached s.reset
  | given {s : State} (h : IsReached s) (context : Context) (run : Run) :
      IsReached { s with context, run }
  | pass {s : State} (h : IsReached s) (settings : Settings) (number : Nat) (tree : Tree) :
      IsReached (runPass settings number tree s).2

theorem State.IsReached.covered {s : State} (h : s.IsReached) : Covered s.choices := by
  induction h with
  | start | reset => exact fun _ mem => nomatch mem
  | given _ _ _ ih => exact ih
  | @pass s _ settings number tree ih => exact (runs_runPass settings number tree s).covered ih

end TextGen.Script
