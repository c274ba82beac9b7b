import Mathlib
import TextGen.Proofs.Grammar.Derivations

/-! Additions that are made again.
A production has the weight that it was given last, and keeps its place when it is given another
one. So an addition that is made twice in a row comes to what it came to the first time, also if it
gives several weights to one production. -/
namespace TextGen.Grammar

def weight? (g : Grammar) (name text : String) : Option Float :=
  (g.get? name).bind fun r =>
    (r.productions.find? fun p => p.text = text).map Production.weight

def Addition.weight? (a : Addition) (name text : String) : Option Float :=
  let new := (a.accepted.1.filter fun entry => entry.1 = name).flatMap Prod.snd
  (new.filter fun p => p.text = text).getLast?.map Production.weight

/- The productions of one rule. -/

namespace Weights

variable (weights : Weights)

theorem put_eq_update (p : Production) :
    weights.put p = OrderedMap.update weights p.text 0 fun _ => p.weight := by
  apply OrderedMap.ext
  unfold put OrderedMap.put
  rw [OrderedMap.entries_update, OrderedMap.entries_update]

theorem get?_foldl_put (new : List Production) (text : String) :
    OrderedMap.get? (new.foldl put weights) text =
      ((new.filter fun p => p.text = text).getLast?.map Production.weight).or
        (OrderedMap.get? weights text) := by
  induction new using List.reverseRecOn with
  | nil => rfl
  | append_singleton new p ih =>
    rw [List.foldl_append, List.foldl_cons, List.foldl_nil, put_eq_update, OrderedMap.get?_update,
      List.filter_append]
    by_cases same : p.text = text
    · simp [same]
    · simp [same, Ne.symm same, ih]

theorem foldl_put_again (new : List Production) :
    new.foldl put (new.foldl put weights) = new.foldl put weights := by
  have last : ∀ (own : List Production) (weight : Float),
      own.foldl (fun _ p => p.weight) (own.foldl (fun _ p => p.weight) weight) =
        own.foldl (fun _ p => p.weight) weight := by
    intro own weight
    induction own using List.reverseRecOn with
    | nil => rfl
    | append_singleton own p _ => simp
  have updates : put = fun weights p => OrderedMap.update weights p.text 0 fun _ => p.weight := by
    funext weights p
    exact put_eq_update weights p
  rw [updates]
  apply OrderedMap.foldl_update_again
  intro text weight
  exact last _ weight

theorem find?_productions (text : String) :
    (weights.productions.find? fun p => p.text = text).map Production.weight =
      OrderedMap.get? weights text := by
  unfold productions OrderedMap.get?
  rw [List.find?_map, Option.map_map]
  rfl

end Weights

/- All rules. -/

namespace RuleMap

variable (m : RuleMap) (entries : List Entry)

theorem foldl_add_again :
    entries.foldl add (entries.foldl add m) = entries.foldl add m := by
  apply OrderedMap.foldl_update_again
  intro name weights own
  rw [← List.foldl_flatMap, ← List.foldl_flatMap]
  exact Weights.foldl_put_again weights _

theorem weights_foldl_add (name : String) :
    (OrderedMap.get? (entries.foldl add m) name).getD ∅ =
      ((entries.filter fun entry => entry.1 = name).flatMap Prod.snd).foldl Weights.put
        ((OrderedMap.get? m name).getD ∅) := by
  rw [List.foldl_flatMap]
  exact m.get?_foldl_update Prod.fst ∅ (fun (entry : Entry) => entry.2.foldl Weights.put)
    entries name

end RuleMap

variable {g : Grammar} {m : RuleMap}

theorem Represents.weight? (h : Represents g m) (name text : String) :
    g.weight? name text = OrderedMap.get? ((OrderedMap.get? m name).getD ∅) text := by
  unfold Grammar.weight?
  rw [h.inStep.get?_eq_find?, h.rules, m.find?_rules]
  cases OrderedMap.get? m name with
  | none => rfl
  | some weights => exact weights.find?_productions text

/-- What an addition comes to: each production has the weight that it is given last, and the others
keep theirs. Made again, the addition has the same outcome and leaves the same rules, in the same
order and with the same productions and weights. -/
theorem addition_made_again (built : Built g) (a : Addition) :
    (∀ name text,
      (a.run g).1.weight? name text = (a.weight? name text).or (g.weight? name text)) ∧
    (a.run (a.run g).1).2 = (a.run g).2 ∧
    (a.run (a.run g).1).1.rules = (a.run g).1.rules := by
  obtain ⟨m, h⟩ := built.exists_represents
  have once : Represents (g.insertAll a.accepted.1) (a.accepted.1.foldl RuleMap.add m) :=
    h.insertAll a.accepted_weight
  have twice := once.insertAll a.accepted_weight
  simp only [a.run_eq]
  refine ⟨?_, trivial, ?_⟩
  · intro name text
    rw [once.weight?, h.weight?, RuleMap.weights_foldl_add, Weights.get?_foldl_put]
    rfl
  · rw [twice.rules, once.rules, RuleMap.foldl_add_again]

def twoWeights : Addition := .rule "<a>" "x [2] | z | x [3]" 1.0

theorem accepted_twoWeights :
    twoWeights.accepted = ([("<a>", [⟨"x", 2.0⟩, ⟨"z", 1.0⟩, ⟨"x", 3.0⟩])], none) := by
  have cut : alternatives "x [2] | z | x [3]" = ["x [2]", "z", "x [3]"] := by decide +kernel
  have read : productions? "<a>" ["x [2]", "z", "x [3]"] 1.0 =
      .ok [⟨"x", 2.0⟩, ⟨"z", 1.0⟩, ⟨"x", 3.0⟩] := rfl
  simp only [twoWeights, Addition.accepted, cut, read, single]

theorem addition_made_again_of_two_weights :
    let g := after [.add (.alternatives "<a>" ["x", "y"] 1.0)]
    Built g ∧ (twoWeights.run g).2 = none ∧
      (twoWeights.run g).1.rules = [⟨"<a>", [⟨"x", 3.0⟩, ⟨"y", 1.0⟩, ⟨"z", 1.0⟩]⟩] ∧
      (twoWeights.run (twoWeights.run g).1).2 = none ∧
      (twoWeights.run (twoWeights.run g).1).1.rules =
        [⟨"<a>", [⟨"x", 3.0⟩, ⟨"y", 1.0⟩, ⟨"z", 1.0⟩]⟩] := by
  intro g
  have built : Built g := built_after _
  obtain ⟨_, outcome, rules⟩ := addition_made_again built twoWeights
  have succeeds : (twoWeights.run g).2 = none := by rw [twoWeights.run_eq, accepted_twoWeights]
  have left : (twoWeights.run g).1.rules = [⟨"<a>", [⟨"x", 3.0⟩, ⟨"y", 1.0⟩, ⟨"z", 1.0⟩]⟩] := by
    have start : Represents g (RuleMap.after [.add (.alternatives "<a>" ["x", "y"] 1.0)]) :=
      represents_after _
    rw [twoWeights.run_eq, (start.insertAll twoWeights.accepted_weight).rules,
      accepted_twoWeights]
    rfl
  exact ⟨built, succeeds, left, outcome.trans succeeds, rules.trans left⟩

end TextGen.Grammar
