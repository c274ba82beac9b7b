import Mathlib
import TextGen.Proofs.Script.Covering

/-! Places of choice keep a state of their own.
A choice is known by its pass and its number in the pass. The visits of a place that agree in policy
and number of alternatives share one state, whatever is visited between them, and a site of a text
keeps a state of its own if it is always visited at one place where no other site is. -/
namespace TextGen.Script

/- The visits of a place. -/

def visitsAt (place : Nat × Nat) (vs : List Visit) : List Visit :=
  vs.filter fun v => v.place = place && v.policy.isStateful

def visitsOf (site : Nat) (vs : List Visit) : List Visit :=
  vs.filter fun v => v.place.1 = 0 && v.site = site

/-- The visits of one place lead from one state to another. -/
inductive Turns : Option ChoiceState → List Visit → Option ChoiceState → Prop
  | nil {old : Option ChoiceState} : Turns old [] old
  | cons {old last : Option ChoiceState} {v : Visit} {vs : List Visit} {new : ChoiceState}
      (turn : Turn old v new) (rest : Turns (some new) vs last) : Turns old (v :: vs) last

theorem lookup_keepChoice (key place : Nat × Nat) (c : ChoiceState) (choices : Choices) :
    (Pass.keepChoice key c choices).lookup place =
      if place = key then some c else choices.lookup place := by
  have other : ∀ {k : Nat × Nat}, place ≠ k → (place == k) = false := fun h => by simpa using h
  induction choices with
  | nil =>
    by_cases same : place = key
    · simp [Pass.keepChoice, same]
    · simp [Pass.keepChoice, List.lookup, same, other same]
  | cons entry rest ih =>
    obtain ⟨k, old⟩ := entry
    by_cases found : k = key
    · rw [Pass.keepChoice, if_pos found, found]
      by_cases same : place = key
      · simp [List.lookup, same]
      · simp [List.lookup, same, other same]
    · rw [Pass.keepChoice, if_neg found]
      by_cases here : place = k
      · rw [if_neg (by rw [here]; exact found)]
        simp [List.lookup, here]
      · simp only [List.lookup, other here]
        exact ih

theorem turns_of_runs (place : Nat × Nat) {choices after : Choices} {vs : List Visit}
    (h : Runs choices vs after) :
    Turns (choices.lookup place) (visitsAt place vs) (after.lookup place) := by
  induction h with
  | nil => exact .nil
  | @free choices after v vs stateless rest ih =>
    have skipped : visitsAt place (v :: vs) = visitsAt place vs :=
      List.filter_cons_of_neg (by simp [stateless])
    rw [skipped]
    exact ih
  | @turn choices after v vs c stateful turn rest ih =>
    rw [lookup_keepChoice] at ih
    by_cases here : v.place = place
    · have kept : visitsAt place (v :: vs) = v :: visitsAt place vs :=
        List.filter_cons_of_pos (by simp [stateful, here])
      rw [if_pos here.symm] at ih
      rw [kept]
      rw [here] at turn
      exact .cons turn ih
    · have skipped : visitsAt place (v :: vs) = visitsAt place vs :=
        List.filter_cons_of_neg (by simp [here])
      rw [if_neg (Ne.symm here)] at ih
      rw [skipped]
      exact ih

/- Stretches. -/

theorem fits_of_turn {old : Option ChoiceState} {v : Visit} {new : ChoiceState}
    (h : Turn old v new) : new.weights.length = v.weights.length ∧ new.policy = v.policy := by
  obtain ⟨c, s, begins, _, rfl⟩ := h
  rw [(c.select_kind s).1, (c.select_kind s).2]
  exact begins.kind

theorem exists_turns_append {old last : Option ChoiceState} {vs us : List Visit}
    (h : Turns old (vs ++ us) last) : ∃ mid, Turns old vs mid ∧ Turns mid us last ∧
      (∀ v ∈ vs.getLast?, ∃ c, mid = some c ∧ c.weights.length = v.weights.length ∧
        c.policy = v.policy) ∧ (vs = [] → mid = old) := by
  induction vs generalizing old with
  | nil => exact ⟨old, .nil, h, by simp, fun _ => rfl⟩
  | cons v vs ih =>
    cases h with
    | @cons _ _ _ _ new turn rest =>
      obtain ⟨mid, before, after, kind, start⟩ := ih rest
      refine ⟨mid, .cons turn before, after, ?_, nofun⟩
      cases vs with
      | nil =>
        intro u mem
        cases mem
        exact ⟨new, start rfl, fits_of_turn turn⟩
      | cons u vs =>
        rw [List.getLast?_cons_cons]
        exact kind

/- What is picked. -/

/-- The picks of a state that is kept for itself. -/
structure Keeps (weights : List Float) (policy : Policy)
    (picks : List (Except Failure (Option Nat))) : Prop where
  cycles : policy = .sequence → ∀ j (h : j < picks.length),
    picks[j] = .ok (optionsFrom 0 weights)[j % (optionsFrom 0 weights).length]?
  varies : policy = .noRepeat → 2 ≤ weights.length →
    picks.IsChain (· ≠ ·) ∧ ∀ pick ∈ picks, ∃ i < weights.length, pick = .ok (some i)

theorem begins_of_fits {c c' : ChoiceState} {v : Visit} (h : Begins v (some c) c')
    (fits : c.weights.length = v.weights.length ∧ c.policy = v.policy) : c' = c := by
  cases h with
  | kept => rfl
  | made unfit =>
    have fitting := ChoiceState.fits_iff.mpr fits
    rw [unfit c rfl] at fitting
    cases fitting

theorem exists_picks_of_turns {c : ChoiceState} {last : Option ChoiceState} {vs : List Visit}
    (h : Turns (some c) vs last)
    (all : ∀ v ∈ vs, c.weights.length = v.weights.length ∧ c.policy = v.policy) :
    ∃ sources, c.picks sources = vs.map Visit.pick := by
  induction vs generalizing c with
  | nil => exact ⟨[], rfl⟩
  | cons v vs ih =>
    cases h with
    | cons step rest =>
      obtain ⟨c', s, begins, pick, rfl⟩ := step
      obtain rfl := begins_of_fits begins (all v List.mem_cons_self)
      obtain ⟨weights, policy⟩ := c'.select_kind s
      obtain ⟨sources, picked⟩ := ih rest fun u mem => by
        rw [weights, policy]
        exact all u (List.mem_cons_of_mem _ mem)
      refine ⟨s :: sources, ?_⟩
      rw [ChoiceState.picks, picked, pick, List.map_cons]

/-- A stretch of visits that agree, after a visit that does not. -/
theorem keeps_of_turns {old last : Option ChoiceState} {first : Visit} {vs : List Visit}
    (h : Turns old (first :: vs) last)
    (fresh : ∀ c ∈ old, c.fits first.weights.length first.policy = false)
    (all : ∀ v ∈ first :: vs,
      v.policy = first.policy ∧ v.weights.length = first.weights.length) :
    Keeps first.weights first.policy ((first :: vs).map Visit.pick) := by
  have start : ∃ s, Turns (some (ChoiceState.create first.place.2 first.weights first.policy s).1)
      (first :: vs) last := by
    cases h with
    | cons step rest =>
      obtain ⟨c, s, begins, picked⟩ := step
      cases begins with
      | kept fits =>
        rw [fresh _ rfl] at fits
        cases fits
      | made _ s' =>
        have kind := ChoiceState.create_kind first.place.2 first.weights first.policy s'
        have fits := ChoiceState.fits_iff.mpr ⟨congrArg List.length kind.1, kind.2⟩
        exact ⟨s', .cons ⟨_, s, .kept fits, picked⟩ rest⟩
  obtain ⟨s, turns⟩ := start
  have kind := ChoiceState.create_kind first.place.2 first.weights first.policy s
  obtain ⟨sources, picked⟩ := exists_picks_of_turns turns fun v mem =>
    ⟨(congrArg List.length kind.1).trans (all v mem).2.symm, kind.2.trans (all v mem).1.symm⟩
  rw [← picked]
  constructor
  · intro policy j inside
    rw [policy] at inside
    have served := (ChoiceState.serves_create _ _ _).picks sources j inside
    rw [Nat.zero_add] at served
    simp only [policy]
    exact served
  · intro policy many
    rw [policy]
    obtain ⟨chain, valid, _⟩ := (ChoiceState.avoids_create _ _ _).picks many sources
    exact ⟨chain.tail, valid⟩

/- Evaluations. -/

/-- Whether a state that fits one of the visits fits the other. -/
def Visit.Agrees (v u : Visit) : Prop := v.policy = u.policy ∧ v.weights.length = u.weights.length

variable {script : Script} {calls : List Call}

theorem keeps_of_stretch {place : Nat × Nat} {before after stretch : List Visit} {first : Visit}
    (split : visitsAt place (visits script [] calls) = before ++ (first :: stretch) ++ after)
    (all : ∀ v ∈ stretch, v.Agrees first) (apart : ∀ v ∈ before.getLast?, ¬ v.Agrees first) :
    Keeps first.weights first.policy ((first :: stretch).map Visit.pick) := by
  obtain ⟨_, runs⟩ := exists_runs_visits script [] calls
  have turns := turns_of_runs place runs
  rw [split] at turns
  obtain ⟨_, turns, _⟩ := exists_turns_append turns
  obtain ⟨mid, _, turns, kind, start⟩ := exists_turns_append turns
  refine keeps_of_turns turns ?_ (List.forall_mem_cons.mpr ⟨⟨rfl, rfl⟩, all⟩)
  intro c mem
  cases last : before.getLast? with
  | none =>
    rw [start (List.getLast?_eq_none_iff.mp last)] at mem
    cases mem
  | some v =>
    obtain ⟨c', same, length, policy⟩ := kind v last
    rw [same] at mem
    cases mem
    by_contra fits
    obtain ⟨length', policy'⟩ := ChoiceState.fits_iff.mp (by simpa using fits)
    exact apart v last ⟨policy.symm.trans policy', length.symm.trans length'⟩

/-- The visits of the first pass over a text are of the sites that it has. -/
theorem site_of_mem_visits {source : String} {t : Tree}
    (same : ∀ call ∈ calls, call.text = source) (read : Tree.ofText? source = .ok t) {v : Visit}
    (mem : v ∈ visits script [] calls) (first : v.place.1 = 0) :
    (Tree.sites t)[v.site]? = some (v.weights, v.policy) ∧
      (t.isFlat = true → v.place.2 = v.site + 1) := by
  obtain ⟨call, called, tree, found, s, visited⟩ := mem_visits_first script mem first
  rw [same call called, read, Except.ok.injEq] at found
  rw [← found] at visited
  obtain ⟨i, site, here⟩ := isOf_of_mem_treeVisits script.settings 0 t _ v visited
  rw [Nat.zero_add] at site
  rw [site]
  refine ⟨here, fun flat => ?_⟩
  rw [← site]
  exact place_of_flat script.settings flat visited

theorem keeps_of_own_place {source : String} {t : Tree}
    (same : ∀ call ∈ calls, call.text = source) (read : Tree.ofText? source = .ok t) {i k : Nat}
    {weights : List Float} {policy : Policy}
    (site : (Tree.sites t)[i]? = some (weights, policy)) (stateful : policy.isStateful = true)
    (own : ∀ v ∈ visits script [] calls, v.place.1 = 0 → v.policy.isStateful = true →
      (v.site = i ↔ v.place.2 = k)) :
    Keeps weights policy ((visitsOf i (visits script [] calls)).map Visit.pick) := by
  have kind : ∀ v ∈ visitsOf i (visits script [] calls), v.weights = weights ∧ v.policy = policy := by
    intro v mem
    obtain ⟨mem, here⟩ := List.mem_filter.mp mem
    simp only [Bool.and_eq_true, decide_eq_true_eq] at here
    have found := (site_of_mem_visits same read mem here.1).1
    rw [here.2, site, Option.some.injEq, Prod.mk.injEq] at found
    exact ⟨found.1.symm, found.2.symm⟩
  have whole : visitsAt (0, k) (visits script [] calls) = visitsOf i (visits script [] calls) := by
    refine List.filter_congr fun v mem => ?_
    rw [Bool.eq_iff_iff]
    simp only [Bool.and_eq_true, decide_eq_true_eq, Prod.ext_iff]
    constructor
    · rintro ⟨⟨first, place⟩, stateful⟩
      exact ⟨first, (own v mem first stateful).mpr place⟩
    · rintro ⟨first, here⟩
      have kept := kind v (List.mem_filter.mpr ⟨mem, by simp [first, here]⟩)
      have stateful : v.policy.isStateful = true := by
        rw [kept.2]
        exact stateful
      exact ⟨⟨first, (own v mem first stateful).mp here⟩, stateful⟩
  cases split : visitsOf i (visits script [] calls) with
  | nil => exact ⟨fun _ j inside => absurd inside (Nat.not_lt_zero j), fun _ _ => ⟨.nil, by simp⟩⟩
  | cons first stretch =>
    rw [split] at kind
    obtain ⟨weights', policy'⟩ := kind first List.mem_cons_self
    have all : ∀ v ∈ stretch, v.Agrees first := by
      intro v mem
      obtain ⟨weights'', policy''⟩ := kind v (List.mem_cons_of_mem _ mem)
      exact ⟨policy''.trans policy'.symm, congrArg List.length (weights''.trans weights'.symm)⟩
    have alone : visitsAt (0, k) (visits script [] calls) = [] ++ (first :: stretch) ++ [] := by
      rw [whole, split, List.nil_append, List.append_nil]
    have kept := keeps_of_stretch alone all (by simp)
    rw [weights', policy'] at kept
    exact kept

/-- One script that is not reset keeps a state for each place, which is a pass and the number of a
choice in it. Successive visits of a place with one policy and one number of alternatives share the
state that the first of them has made: `seq` picks in order and from the start again, and `norep`
never picks the same twice in a row. A site of a text that is evaluated again and again has a state
of its own if all its visits, and no others, are at one place, and so if no choice stands in an
alternative of another or behind a guard. -/
theorem places_keep_states (script : Script) (calls : List Call) :
    (∀ place before first stretch after,
      visitsAt place (visits script [] calls) = before ++ (first :: stretch) ++ after →
      (∀ v ∈ stretch, v.Agrees first) → (∀ v ∈ before.getLast?, ¬ v.Agrees first) →
      Keeps first.weights first.policy ((first :: stretch).map Visit.pick)) ∧
    ∀ (source : String) (t : Tree), (∀ call ∈ calls, call.text = source) →
      Tree.ofText? source = .ok t → ∀ (i : Nat) (weights : List Float) (policy : Policy),
      (Tree.sites t)[i]? = some (weights, policy) → policy.isStateful = true →
      (Tree.isFlat t = true ∨ ∃ k, ∀ v ∈ visits script [] calls, v.place.1 = 0 →
        v.policy.isStateful = true → (v.site = i ↔ v.place.2 = k)) →
      Keeps weights policy ((visitsOf i (visits script [] calls)).map Visit.pick) := by
  constructor
  · intro place before first stretch after split all apart
    exact keeps_of_stretch split all apart
  · intro source t same read i weights policy site stateful own
    rcases own with flat | ⟨k, own⟩
    · refine keeps_of_own_place (k := i + 1) same read site stateful fun v mem first _ => ?_
      rw [(site_of_mem_visits same read mem first).2 flat]
      omega
    · exact keeps_of_own_place same read site stateful own

theorem places_keep_states_of_two_sites :
    let source := "(p | q).seq (a | b).norep"
    let t : Tree := [.choice [.mk [.text "p"] none, .mk [.text "q"] none] [⟨"seq", false⟩], .text " ",
      .choice [.mk [.text "a"] none, .mk [.text "b"] none] [⟨"norep", false⟩]]
    let calls : List Call := List.replicate 3 ⟨source, [], ⟨⟨[], 0⟩, []⟩⟩
    let vs := visits {} [] calls
    let first : Visit := ⟨(0, 1), 0, [1.0, 1.0], .sequence, .ok (some 0)⟩
    let stretch : List Visit := [{ first with pick := .ok (some 1) }, first]
    (visitsAt (0, 1) vs = [] ++ (first :: stretch) ++ [] ∧ (∀ v ∈ stretch, v.Agrees first) ∧
      Keeps [1.0, 1.0] .sequence [.ok (some 0), .ok (some 1), .ok (some 0)]) ∧
    (∀ call ∈ calls, call.text = source) ∧ Tree.ofText? source = .ok t ∧
      (Tree.sites t)[1]? = some ([1.0, 1.0], .noRepeat) ∧ Tree.isFlat t = true ∧
      Keeps [1.0, 1.0] .noRepeat ((visitsOf 1 vs).map Visit.pick) := by
  intro source t calls vs first stretch
  have read : Tree.ofText? source = .ok t := by
    show Tree.ofText? "(p | q).seq (a | b).norep" = .ok t
    with_unfolding_all rfl
  have split : visitsAt (0, 1) vs = [] ++ (first :: stretch) ++ [] := by decide +kernel
  have site : (Tree.sites t)[1]? = some ([1.0, 1.0], .noRepeat) := rfl
  have all : ∀ v ∈ stretch, v.Agrees first := by
    intro v mem
    rcases List.mem_cons.mp mem with rfl | mem
    · exact ⟨rfl, rfl⟩
    · rw [List.mem_singleton.mp mem]
      exact ⟨rfl, rfl⟩
  have same : ∀ call ∈ calls, call.text = source := by
    intro call mem
    rw [List.eq_of_mem_replicate mem]
  obtain ⟨places, sites⟩ := places_keep_states {} calls
  exact ⟨⟨split, all, places _ _ _ _ _ split all (by simp)⟩, same, read, site, rfl,
    sites source t same read 1 _ _ site rfl (.inl rfl)⟩

/-- A guard before a site decides at which place it is visited, and so which state it finds. -/
theorem not_all_sites_keep_states :
    ¬ ∀ (script : Script) (calls : List Call) (source : String) (t : Tree),
      (∀ call ∈ calls, call.text = source) → Tree.ofText? source = .ok t →
      ∀ (i : Nat) (weights : List Float) (policy : Policy),
      (Tree.sites t)[i]? = some (weights, policy) → policy.isStateful = true →
      Keeps weights policy ((visitsOf i (visits script [] calls)).map Visit.pick) := by
  intro all
  let source := "\x7b$x = 1\x7d(p | q).seq (a | b).seq\n$x = 1"
  let t : Tree := [.guarded [⟨"x", .equal, "1"⟩]
    [.choice [.mk [.text "p"] none, .mk [.text "q"] none] [⟨"seq", false⟩]], .text " ",
    .choice [.mk [.text "a"] none, .mk [.text "b"] none] [⟨"seq", false⟩], .newline,
    .assign "x" [.text "1"] 0 false []]
  let run : Run := ⟨⟨[], 0⟩, []⟩
  let calls : List Call := [⟨source, [], run⟩, ⟨source, [("x", .text "1")], run⟩]
  have read : Tree.ofText? source = .ok t := by
    show Tree.ofText? "\x7b$x = 1\x7d(p | q).seq (a | b).seq\n$x = 1" = .ok t
    with_unfolding_all rfl
  have same : ∀ call ∈ calls, call.text = source := by
    intro call mem
    rcases List.mem_cons.mp mem with rfl | mem
    · rfl
    · rw [List.mem_singleton.mp mem]
  have keeps := all {} calls source t same read 1 [1.0, 1.0] .sequence rfl rfl
  have picks : (visitsOf 1 (visits {} [] calls)).map Visit.pick =
      [.ok (some 0), .ok (some 0)] := by
    decide +kernel
  have order : optionsFrom 0 [1.0, 1.0] = [0, 1] := by decide +kernel
  rw [picks] at keeps
  have second := keeps.cycles rfl 1 (by decide)
  rw [order] at second
  cases second

end TextGen.Script
