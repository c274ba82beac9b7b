import Mathlib
import TextGen.Script.Evaluation

/-! The choices that are made.
A visit is one choice: its place, which is the pass and the number of the choice in the pass, its
site, which is the number of the choice in the text, and what was picked. The visits of a pass, of
the passes of an evaluation and of one evaluation after another are lists, and the states of choices
change with each visit and with nothing else. A visit whose draw fails is the last one of its
evaluation. -/
namespace TextGen.Script

abbrev Choices := List ((Nat × Nat) × ChoiceState)

structure Visit where
  place : Nat × Nat
  site : Nat
  weights : List Float
  policy : Policy
  pick : Except Failure (Option Nat)
deriving DecidableEq

/- Sites. -/

mutual

/-- The choices in a node as they are written, each with the weights of its alternatives. -/
def Node.sites : Node → List (List Float × Policy)
  | .choice alternatives c =>
    (alternatives.map Alternative.weight, Policy.ofChain c) :: Alternative.sites alternatives
  | .assign _ value _ _ _ => Tree.sites value
  | .guarded _ body => Tree.sites body
  | _ => []

def Tree.sites : Tree → List (List Float × Policy)
  | [] => []
  | n :: t => n.sites ++ Tree.sites t

def Alternative.sites : List Alternative → List (List Float × Policy)
  | [] => []
  | .mk tree _ :: rest => Tree.sites tree ++ Alternative.sites rest

end

/- Visits of a pass. The first site of what is visited has the number `base`. -/

mutual

def treeVisits (settings : Settings) (base : Nat) : Tree → Pass → List Visit
  | [], _ => []
  | n :: rest, p =>
    let node := visitNode settings n p
    nodeVisits settings base n p ++
      match node.1 with
      | .ok _ => treeVisits settings (base + n.sites.length) rest node.2
      | .error _ => []

def nodeVisits (settings : Settings) (base : Nat) : Node → Pass → List Visit
  | .choice alternatives c, p =>
    let id := p.visited + 1
    let weights := alternatives.map Alternative.weight
    let made := Pass.choose { p with visited := id } id weights (Policy.ofChain c)
    ⟨(p.number, id), base, weights, Policy.ofChain c, made.1⟩ ::
      match made.1 with
      | .ok (some i) => nthVisits settings (base + 1) alternatives i made.2
      | _ => []
  | .assign _ value _ _ _, p => treeVisits settings base value p
  | .guarded conditions body, p =>
    let met := p.meets conditions
    if met.1 then treeVisits settings base body met.2 else []
  | _, _ => []

def nthVisits (settings : Settings) (base : Nat) : List Alternative → Nat → Pass → List Visit
  | [], _, _ => []
  | .mk tree _ :: _, 0, p => treeVisits settings base tree p
  | .mk tree _ :: rest, i + 1, p => nthVisits settings (base + (Tree.sites tree).length) rest i p

end

/- Visits of evaluations. -/

def passesVisits (script : Script) : Nat → Nat → String → State → List Visit
  | 0, _, _, _ => []
  | left + 1, number, text, s =>
    match Tree.ofText? text with
    | .error _ => []
    | .ok tree =>
      let (output?, after) := runPass script.settings number tree s
      treeVisits script.settings 0 tree { number, state := s } ++
        match output? with
        | .error _ => []
        | .ok output =>
          if isUnfinished output ∧ output ≠ text then
            passesVisits script left (number + 1) output
              (script.tell ("pass " ++ toString number ++ ": '" ++ output ++ "'") after)
          else []

/-- A text that is evaluated, with the bindings and the running state at the time. -/
structure Call where
  text : String
  context : Context
  run : Run

def Call.state (call : Call) (choices : Choices) : State := ⟨choices, call.context, call.run⟩

/-- The visits of one evaluation after another by one script, which is not reset. -/
def visits (script : Script) : Choices → List Call → List Visit
  | _, [] => []
  | choices, call :: rest =>
    passesVisits script script.options.maxPasses 0 call.text (call.state choices) ++
      visits script (script.evaluate call.text (call.state choices)).2.choices rest

/- What a visit does to the states of choices. -/

/-- The state with which a visit of a place with the given state begins. -/
inductive Begins (v : Visit) : Option ChoiceState → ChoiceState → Prop
  | kept {c : ChoiceState} (h : c.fits v.weights.length v.policy = true) : Begins v (some c) c
  | made {old : Option ChoiceState} (h : ∀ c ∈ old, c.fits v.weights.length v.policy = false)
      (s : Source) : Begins v old (ChoiceState.create v.place.2 v.weights v.policy s).1

/-- A visit picks from the state with which it begins, and leaves another. -/
def Turn (old : Option ChoiceState) (v : Visit) (new : ChoiceState) : Prop :=
  ∃ c s, Begins v old c ∧ (c.select s).1 = v.pick ∧ (c.select s).2.1 = new

/-- The visits lead from one record of states to another. -/
inductive Runs : Choices → List Visit → Choices → Prop
  | nil {choices : Choices} : Runs choices [] choices
  | free {choices after : Choices} {v : Visit} {vs : List Visit}
      (h : v.policy.isStateful = false) (rest : Runs choices vs after) :
      Runs choices (v :: vs) after
  | turn {choices after : Choices} {v : Visit} {vs : List Visit} {c : ChoiceState}
      (h : v.policy.isStateful = true) (turn : Turn (choices.lookup v.place) v c)
      (rest : Runs (Pass.keepChoice v.place c choices) vs after) : Runs choices (v :: vs) after

theorem Runs.append {choices mid after : Choices} {vs us : List Visit} (h : Runs choices vs mid)
    (later : Runs mid us after) : Runs choices (vs ++ us) after := by
  induction h with
  | nil => exact later
  | free stateless _ ih => exact .free stateless (ih later)
  | turn stateful turn _ ih => exact .turn stateful turn (ih later)

/- All but choices keeps the record and the numbering. -/

namespace Pass

def frame (p : Pass) : Nat × Nat × Choices := (p.number, p.visited, p.state.choices)

variable (p : Pass) (settings : Settings) (name value text : String) (c : Chain)

theorem frame_tell : (p.tell settings text).frame = p.frame := by
  unfold tell
  split <;> rfl

theorem frame_transform (v : Value) : (p.transform settings v c).2.frame = p.frame := by
  unfold transform
  split
  · rfl
  · dsimp only
    split <;> rfl

theorem frame_symbol : (p.symbol settings name c).2.frame = p.frame := by
  unfold symbol
  split
  · rfl
  · split
    · split <;> rfl
    · split
      · rfl
      · rw [frame_tell, frame_transform]

theorem frame_assign (isStatement : Bool) :
    (p.assign settings name value isStatement c).2.frame = p.frame := by
  unfold assign
  split
  · exact frame_tell p settings _
  · dsimp only
    split
    · rfl
    · exact frame_transform (p.bind name (.text value)) settings c _

theorem frame_finishChoice (id : Nat) :
    (p.finishChoice settings id text c).2.frame = p.frame := by
  unfold finishChoice
  dsimp only
  split
  · exact frame_tell p settings _
  · split
    · exact frame_tell p settings _
    · rw [frame_transform, frame_tell]

theorem frame_meets (conditions : List Condition) : (p.meets conditions).2.frame = p.frame := by
  induction conditions generalizing p with
  | nil => rfl
  | cons condition rest ih =>
    unfold meets
    split
    · rfl
    · dsimp only
      split
      · rw [ih]
        rfl
      · rfl

theorem begins_choiceState (v : Visit) :
    Begins v (p.state.choices.lookup v.place) (p.choiceState v.place v.weights v.policy).1 := by
  unfold choiceState
  cases old : p.state.choices.lookup v.place with
  | none => exact .made (by simp) _
  | some c =>
    cases fits : c.fits v.weights.length v.policy with
    | true =>
      simp only [Option.filter, fits, if_true]
      exact .kept fits
    | false =>
      simp only [Option.filter, fits, Bool.false_eq_true, if_false]
      exact .made (by simp [fits]) _

end Pass

/- What a part of a pass does. -/

/-- From one state of a pass to another with the given visits between them. Their places are
numbered one after the other. -/
structure Follows (p : Pass) (vs : List Visit) (q : Pass) : Prop where
  runs : Runs p.state.choices vs q.state.choices
  number : q.number = p.number
  visited : q.visited = p.visited + vs.length
  places : vs.map Visit.place = (List.range' (p.visited + 1) vs.length).map (Prod.mk p.number)

namespace Follows

variable {p q r : Pass} {vs us : List Visit}

theorem trans (h : Follows p vs q) (later : Follows q us r) : Follows p (vs ++ us) r where
  runs := h.runs.append later.runs
  number := later.number.trans h.number
  visited := by rw [later.visited, h.visited, List.length_append, Nat.add_assoc]
  places := by
    have next : q.visited + 1 = p.visited + 1 + vs.length := by
      rw [h.visited]
      omega
    rw [List.map_append, h.places, later.places, h.number, next, ← List.map_append,
      List.range'_append_1, List.length_append]

theorem of_frame (h : q.frame = p.frame) : Follows p [] q := by
  simp only [Pass.frame, Prod.mk.injEq] at h
  obtain ⟨number, visited, choices⟩ := h
  refine ⟨?_, number, visited, rfl⟩
  rw [choices]
  exact .nil

theorem then_frame (h : Follows p vs q) (same : r.frame = q.frame) : Follows p vs r := by
  have whole := h.trans (of_frame same)
  rwa [List.append_nil] at whole

theorem choose (p : Pass) (site : Nat) (weights : List Float) (policy : Policy) :
    let made := Pass.choose { p with visited := p.visited + 1 } (p.visited + 1) weights policy
    Follows p [⟨(p.number, p.visited + 1), site, weights, policy, made.1⟩] made.2 := by
  unfold Pass.choose
  cases stateful : policy.isStateful with
  | false =>
    simp only [Bool.false_eq_true, if_false]
    split
    · exact ⟨.free stateful .nil, rfl, rfl, rfl⟩
    · exact ⟨.free stateful .nil, rfl, rfl, rfl⟩
  | true =>
    simp only [if_true]
    refine ⟨.turn stateful ?_ .nil, rfl, rfl, rfl⟩
    exact ⟨_, _, Pass.begins_choiceState { p with visited := p.visited + 1 }
      ⟨(p.number, p.visited + 1), site, weights, policy, _⟩, rfl, rfl⟩

end Follows

variable (settings : Settings)

mutual

theorem follows_treeVisits : ∀ (base : Nat) (t : Tree) (p : Pass),
    Follows p (treeVisits settings base t p) (visitTree settings t p).2
  | _, [], _ => .of_frame rfl
  | base, n :: rest, p => by
    have first := follows_nodeVisits base n p
    have later := follows_treeVisits (base + n.sites.length) rest
    simp only [treeVisits, visitTree]
    generalize visitNode settings n p = result at first ⊢
    obtain ⟨_ | text, q⟩ := result
    · exact first.trans (.of_frame rfl)
    · refine first.trans ?_
      have whole := later q
      simp only [Drawn.andThen_ok]
      generalize visitTree settings rest q = result at whole ⊢
      obtain ⟨_ | more, q'⟩ := result
      · exact whole
      · exact whole

theorem follows_nodeVisits : ∀ (base : Nat) (n : Node) (p : Pass),
    Follows p (nodeVisits settings base n p) (visitNode settings n p).2
  | _, .text _, _ => .of_frame rfl
  | _, .newline, _ => .of_frame rfl
  | _, .symbol name c, p => .of_frame (p.frame_symbol settings name c)
  | base, .choice alternatives c, p => by
    have inside := follows_nthVisits (base + 1) alternatives
    have made := Follows.choose p base (alternatives.map Alternative.weight) (Policy.ofChain c)
    simp only [nodeVisits, visitNode] at made ⊢
    generalize Pass.choose _ _ _ _ = result at made ⊢
    obtain ⟨_ | (_ | i), q⟩ := result
    · exact made
    · exact made
    · have whole := made.trans (inside i q)
      simp only [Drawn.andThen_ok, List.singleton_append] at whole ⊢
      generalize visitNth settings alternatives i q = result at whole ⊢
      obtain ⟨_ | (_ | text), q'⟩ := result
      · exact whole
      · exact whole
      · exact whole.then_frame (q'.frame_finishChoice settings text c (p.visited + 1))
  | base, .assign name value column inParens c, p => by
    have inside := follows_treeVisits base value p
    simp only [nodeVisits, visitNode]
    generalize visitTree settings value p = result at inside ⊢
    obtain ⟨_ | text, q⟩ := result
    · exact inside
    · exact inside.then_frame (Pass.frame_assign _ settings name _ c _)
  | _, .dynamic name source, p =>
    .of_frame (p.frame_tell settings (Pass.sourceName name ++ " = '" ++ source ++ "'"))
  | base, .guarded conditions body, p => by
    have inside := follows_treeVisits base body
    have met := Follows.of_frame (p.frame_meets conditions)
    simp only [nodeVisits, visitNode]
    generalize p.meets conditions = result at met ⊢
    obtain ⟨held, q⟩ := result
    cases held with
    | true => exact met.trans (inside q)
    | false => exact met

theorem follows_nthVisits : ∀ (base : Nat) (alternatives : List Alternative) (i : Nat) (p : Pass),
    Follows p (nthVisits settings base alternatives i p) (visitNth settings alternatives i p).2
  | _, [], _, _ => .of_frame rfl
  | base, .mk tree _ :: _, 0, p => by
    have inside := follows_treeVisits base tree p
    simp only [nthVisits, visitNth, visitAlternative]
    generalize visitTree settings tree p = result at inside ⊢
    obtain ⟨_ | text, q⟩ := result
    · exact inside
    · exact inside
  | base, .mk tree _ :: rest, i + 1, p =>
    follows_nthVisits (base + (Tree.sites tree).length) rest i p

end

/- Sites of visits. -/

/-- A visit is one of the site whose number it has. -/
def Visit.IsOf (base : Nat) (sites : List (List Float × Policy)) (v : Visit) : Prop :=
  ∃ i, v.site = base + i ∧ sites[i]? = some (v.weights, v.policy)

namespace Visit.IsOf

variable {base : Nat} {sites : List (List Float × Policy)} {v : Visit}

theorem before (h : v.IsOf base sites) (more : List (List Float × Policy)) :
    v.IsOf base (sites ++ more) := by
  obtain ⟨i, site, here⟩ := h
  refine ⟨i, site, ?_⟩
  rw [List.getElem?_append_left (List.getElem?_eq_some_iff.mp here).1]
  exact here

theorem after (h : v.IsOf (base + sites.length) more) : v.IsOf base (sites ++ more) := by
  obtain ⟨i, site, here⟩ := h
  refine ⟨sites.length + i, by omega, ?_⟩
  rw [List.getElem?_append_right (Nat.le_add_right _ _), Nat.add_sub_cancel_left]
  exact here

end Visit.IsOf

mutual

theorem isOf_of_mem_treeVisits : ∀ (base : Nat) (t : Tree) (p : Pass),
    ∀ v ∈ treeVisits settings base t p, v.IsOf base (Tree.sites t)
  | _, [], _, _, mem => nomatch mem
  | base, n :: rest, p, v, mem => by
    rcases List.mem_append.mp mem with mem | mem
    · exact (isOf_of_mem_nodeVisits base n p v mem).before _
    · have inside := isOf_of_mem_treeVisits (base + n.sites.length) rest
      split at mem
      · exact (inside _ v mem).after
      · cases mem

theorem isOf_of_mem_nodeVisits : ∀ (base : Nat) (n : Node) (p : Pass),
    ∀ v ∈ nodeVisits settings base n p, v.IsOf base n.sites
  | _, .text _, _, _, mem => nomatch mem
  | _, .newline, _, _, mem => nomatch mem
  | _, .symbol _ _, _, _, mem => nomatch mem
  | base, .choice alternatives c, p, v, mem => by
    have inside := isOf_of_mem_nthVisits (base + 1) alternatives
    rcases List.mem_cons.mp mem with rfl | mem
    · exact ⟨0, rfl, rfl⟩
    · split at mem
      · have later : v.IsOf (base + [(alternatives.map Alternative.weight, Policy.ofChain c)].length) _ :=
          inside _ _ v mem
        exact later.after
      · cases mem
  | base, .assign _ value _ _ _, p, v, mem => isOf_of_mem_treeVisits base value p v mem
  | _, .dynamic _ _, _, _, mem => nomatch mem
  | base, .guarded conditions body, p, v, mem => by
    have inside := isOf_of_mem_treeVisits base body
    simp only [nodeVisits] at mem
    split at mem
    · exact inside _ v mem
    · cases mem

theorem isOf_of_mem_nthVisits : ∀ (base : Nat) (alternatives : List Alternative) (i : Nat)
    (p : Pass), ∀ v ∈ nthVisits settings base alternatives i p,
      v.IsOf base (Alternative.sites alternatives)
  | _, [], _, _, _, mem => nomatch mem
  | base, .mk tree _ :: _, 0, p, v, mem => (isOf_of_mem_treeVisits base tree p v mem).before _
  | _, .mk _ _ :: rest, i + 1, p, v, mem =>
    (isOf_of_mem_nthVisits _ rest i p v mem).after

end

/- Texts whose choices are all made. -/

mutual

/-- Whether no choice stands in an alternative of another or behind a guard. -/
def Node.isFlat : Node → Bool
  | .choice alternatives _ => (Alternative.sites alternatives).isEmpty
  | .assign _ value _ _ _ => Tree.isFlat value
  | .guarded _ body => (Tree.sites body).isEmpty
  | _ => true

def Tree.isFlat : Tree → Bool
  | [] => true
  | n :: t => n.isFlat && Tree.isFlat t

end

theorem eq_nil_of_isOf {base : Nat} {vs : List Visit} (h : ∀ v ∈ vs, v.IsOf base []) : vs = [] := by
  cases vs with
  | nil => rfl
  | cons v vs =>
    obtain ⟨i, _, here⟩ := h v List.mem_cons_self
    cases here

/-- The sites are visited in order, and all of them if no draw fails. -/
def InOrder {α : Type} (visited : List Visit) (base count : Nat) (result : Except Failure α) : Prop :=
  visited.map Visit.site <+: List.range' base count ∧
    ∀ a, result = .ok a → visited.map Visit.site = List.range' base count

mutual

theorem sites_of_flat_tree : ∀ (base : Nat) (t : Tree) (p : Pass), Tree.isFlat t = true →
    InOrder (treeVisits settings base t p) base (Tree.sites t).length (visitTree settings t p).1
  | _, [], _, _ => ⟨List.nil_prefix, fun _ _ => rfl⟩
  | base, n :: rest, p, flat => by
    rw [Tree.isFlat, Bool.and_eq_true] at flat
    obtain ⟨few, all⟩ := sites_of_flat_node base n p flat.1
    have more := sites_of_flat_tree (base + n.sites.length) rest
    simp only [InOrder, treeVisits, visitTree, Tree.sites, List.length_append,
      List.map_append, ← List.range'_append_1]
    generalize visitNode settings n p = result at all ⊢
    obtain ⟨_ | text, q⟩ := result
    · refine ⟨?_, fun _ returned => nomatch returned⟩
      rw [List.map_nil, List.append_nil]
      exact few.trans (List.prefix_append _ _)
    · obtain ⟨few', all'⟩ := more q flat.2
      rw [all text rfl]
      refine ⟨(List.prefix_append_right_inj _).mpr few', fun a returned => ?_⟩
      simp only [Drawn.andThen_ok, Drawn.andThen_fst_eq_ok] at returned
      obtain ⟨b, first, _⟩ := returned
      exact congrArg (_ ++ ·) (all' b first)

theorem sites_of_flat_node : ∀ (base : Nat) (n : Node) (p : Pass), n.isFlat = true →
    InOrder (nodeVisits settings base n p) base n.sites.length (visitNode settings n p).1
  | _, .text _, _, _ => ⟨List.nil_prefix, fun _ _ => rfl⟩
  | _, .newline, _, _ => ⟨List.nil_prefix, fun _ _ => rfl⟩
  | _, .symbol _ _, _, _ => ⟨List.nil_prefix, fun _ _ => rfl⟩
  | base, .choice alternatives c, p, flat => by
    have none : Alternative.sites alternatives = [] := List.isEmpty_iff.mp flat
    have inside : ∀ i q, nthVisits settings (base + 1) alternatives i q = [] := by
      intro i q
      apply eq_nil_of_isOf
      rw [← none]
      exact isOf_of_mem_nthVisits settings (base + 1) alternatives i q
    have one : (nodeVisits settings base (.choice alternatives c) p).map Visit.site = [base] := by
      simp only [nodeVisits, inside]
      split <;> rfl
    rw [InOrder, one, Node.sites, none]
    exact ⟨List.prefix_rfl, fun _ _ => rfl⟩
  | base, .assign _ value _ _ _, p, flat => by
    obtain ⟨few, all⟩ := sites_of_flat_tree base value p flat
    refine ⟨few, fun a returned => ?_⟩
    simp only [visitNode, Drawn.andThen_fst_eq_ok] at returned
    obtain ⟨b, first, _⟩ := returned
    exact all b first
  | _, .dynamic _ _, _, _ => ⟨List.nil_prefix, fun _ _ => rfl⟩
  | base, .guarded conditions body, p, flat => by
    have none : Tree.sites body = [] := List.isEmpty_iff.mp flat
    have inside : ∀ q, treeVisits settings base body q = [] := by
      intro q
      apply eq_nil_of_isOf
      rw [← none]
      exact isOf_of_mem_treeVisits settings base body q
    simp only [InOrder, nodeVisits, inside, Node.sites, none, ite_self]
    exact ⟨List.prefix_rfl, fun _ _ => rfl⟩

end

theorem place_of_flat {t : Tree} (flat : Tree.isFlat t = true) {number : Nat} {s : State} {v : Visit}
    (mem : v ∈ treeVisits settings 0 t { number, state := s }) : v.place.2 = v.site + 1 := by
  have places := (follows_treeVisits settings 0 t { number, state := s }).places
  have sites := (sites_of_flat_tree settings 0 t { number, state := s } flat).1
  obtain ⟨j, inside, rfl⟩ := List.mem_iff_getElem.mp mem
  have place := congrArg (·[j]?) places
  have site := sites.getElem (by simpa using inside)
  simp only [List.getElem?_map, List.getElem?_eq_getElem inside, Option.map_some] at place
  rw [List.getElem?_range' inside, Option.map_some, Option.some.injEq] at place
  rw [List.getElem_map, List.getElem_range'] at site
  rw [place, site]
  simp only
  omega

/- Evaluations. -/

variable (script : Script)

theorem choices_warn (text : String) (s : State) : (script.warn text s).choices = s.choices := by
  unfold Script.warn
  split <;> rfl

theorem choices_tell (text : String) (s : State) : (script.tell text s).choices = s.choices := by
  unfold Script.tell
  split <;> rfl

theorem runs_runPass (number : Nat) (tree : Tree) (s : State) :
    Runs s.choices (treeVisits settings 0 tree { number, state := s })
      (runPass settings number tree s).2.choices :=
  (follows_treeVisits settings 0 tree { number, state := s }).runs

theorem runs_passesVisits (left number : Nat) (text : String) (s : State) :
    Runs s.choices (passesVisits script left number text s)
      (script.passes left number text s).2.choices := by
  induction left generalizing number text s with
  | zero =>
    rw [passesVisits, Script.passes, choices_warn]
    exact .nil
  | succ left ih =>
    rw [passesVisits, Script.passes, Script.evaluatePass]
    cases Tree.ofText? text with
    | error e =>
      simp only [Drawn.andThen_ok]
      split
      · exact .nil
      · rw [choices_warn]
        exact .nil
    | ok tree =>
      have first := runs_runPass script.settings number tree s
      simp only
      generalize runPass script.settings number tree s = result at first ⊢
      obtain ⟨_ | output, after⟩ := result
      · simpa using first
      · simp only [Drawn.andThen_ok]
        by_cases more : isUnfinished output = true ∧ output ≠ text
        · simp only [if_pos more]
          have later := ih (number + 1) output
            (script.tell ("pass " ++ toString number ++ ": '" ++ output ++ "'") after)
          rw [choices_tell] at later
          exact first.append later
        · simp only [if_neg more, choices_tell, List.append_nil]
          exact first

theorem place_of_mem_treeVisits {base : Nat} {t : Tree} {p : Pass} {v : Visit}
    (mem : v ∈ treeVisits settings base t p) : v.place.1 = p.number := by
  have placed := List.mem_map_of_mem mem (f := Visit.place)
  rw [(follows_treeVisits settings base t p).places] at placed
  obtain ⟨_, _, same⟩ := List.mem_map.mp placed
  rw [← same]

theorem mem_passesVisits {left number : Nat} {text : String} {s : State} {v : Visit}
    (mem : v ∈ passesVisits script left number text s) :
    (∃ tree, Tree.ofText? text = .ok tree ∧
      v ∈ treeVisits script.settings 0 tree { number, state := s }) ∨ number < v.place.1 := by
  induction left generalizing number text s with
  | zero => cases mem
  | succ left ih =>
    rw [passesVisits] at mem
    cases read : Tree.ofText? text with
    | error e =>
      rw [read] at mem
      cases mem
    | ok tree =>
      rw [read] at mem
      simp only at mem
      rcases List.mem_append.mp mem with first | later
      · exact .inl ⟨tree, rfl, first⟩
      · right
        split at later
        · cases later
        · split at later
          · rcases ih later with ⟨_, _, next⟩ | beyond
            · rw [place_of_mem_treeVisits _ next]
              exact Nat.lt_succ_self number
            · omega
          · cases later

theorem mem_visits_first {choices : Choices} {calls : List Call} {v : Visit}
    (mem : v ∈ visits script choices calls) (first : v.place.1 = 0) :
    ∃ call ∈ calls, ∃ tree, Tree.ofText? call.text = .ok tree ∧
      ∃ s, v ∈ treeVisits script.settings 0 tree { number := 0, state := s } := by
  induction calls generalizing choices with
  | nil => cases mem
  | cons call rest ih =>
    rcases List.mem_append.mp mem with here | later
    · rcases mem_passesVisits script here with ⟨tree, read, visited⟩ | beyond
      · exact ⟨call, List.mem_cons_self, tree, read, _, visited⟩
      · omega
    · obtain ⟨other, inside, found⟩ := ih later
      exact ⟨other, List.mem_cons_of_mem _ inside, found⟩

theorem exists_runs_visits (choices : Choices) (calls : List Call) :
    ∃ after, Runs choices (visits script choices calls) after := by
  induction calls generalizing choices with
  | nil => exact ⟨_, .nil⟩
  | cons call rest ih =>
    obtain ⟨after, later⟩ := ih (script.evaluate call.text (call.state choices)).2.choices
    exact ⟨after, (runs_passesVisits script _ 0 call.text (call.state choices)).append later⟩

end TextGen.Script
