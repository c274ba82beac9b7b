import Mathlib
import TextGen.Proofs.Grammar.Calls
import TextGen.Proofs.Grammar.Index
import TextGen.Proofs.Grammar.OrderedMap

/-! A grammar is an ordered map.
Its rules are those of a map from names to maps from texts to weights. A call changes the grammar as
it changes the map, and the index stays in step. -/
namespace TextGen.Grammar

abbrev Weights := OrderedMap String Float

abbrev RuleMap := OrderedMap String Weights

def Weights.put (weights : Weights) (p : Production) : Weights :=
  OrderedMap.put weights p.text p.weight

def Weights.productions (weights : Weights) : List Production :=
  weights.entries.map fun (text, weight) => ⟨text, weight⟩

namespace RuleMap

def rules (m : RuleMap) : List Rule :=
  m.entries.map fun (name, weights) => ⟨name, weights.productions⟩

/-- Productions go to the entry of the name, which is put behind the others if there is none. -/
def add (m : RuleMap) (entry : Entry) : RuleMap :=
  OrderedMap.update m entry.1 ∅ fun weights => entry.2.foldl Weights.put weights

def change (m : RuleMap) : Call → RuleMap
  | .add addition => addition.accepted.1.foldl add m
  | .remove name => OrderedMap.erase m name
  | .clear => ∅

def after (calls : List Call) : RuleMap := calls.foldl change ∅

end RuleMap

/- Productions of a rule. -/

def Production.reweigh (p q : Production) : Production :=
  if q.text = p.text then { q with weight := p.weight } else q

theorem insertProduction_eq {p : Production} {productions : List Production}
    (distinct : (productions.map Production.text).Nodup) :
    insertProduction p productions =
      if p.text ∈ productions.map Production.text then productions.map p.reweigh
      else productions ++ [p] := by
  induction productions with
  | nil => rfl
  | cons q rest ih =>
    rw [List.map_cons, List.nodup_cons] at distinct
    unfold insertProduction
    by_cases same : q.text = p.text
    · have others : rest.map p.reweigh = rest := by
        rw [List.map_congr_left, List.map_id]
        intro other mem
        have apart : other.text ≠ p.text := by
          intro again
          apply distinct.1
          rw [same, ← again]
          exact List.mem_map_of_mem mem
        simp [Production.reweigh, apart]
      simp [same, others, Production.reweigh]
    · rw [if_neg same, ih distinct.2]
      by_cases inside : p.text ∈ rest.map Production.text
      · simp [inside, Production.reweigh, same]
      · simp [inside, Ne.symm same]

theorem Weights.texts (weights : Weights) :
    weights.productions.map Production.text = weights.keys := by
  simp [productions, OrderedMap.keys, Function.comp_def]

theorem Weights.productions_put (weights : Weights) (p : Production) :
    (weights.put p).productions = insertProduction p weights.productions := by
  have distinct : (weights.productions.map Production.text).Nodup := by
    rw [weights.texts]
    exact weights.distinct
  rw [insertProduction_eq distinct, weights.texts]
  unfold Weights.productions Weights.put OrderedMap.put
  rw [OrderedMap.entries_update]
  split
  · rw [List.map_map, List.map_map]
    apply List.map_congr_left
    rintro ⟨text, weight⟩ _
    simp only [Function.comp_apply, OrderedMap.change, Production.reweigh]
    split
    · rfl
    · rfl
  · simp

theorem Weights.productions_foldl_put (weights : Weights) (new : List Production) :
    (new.foldl Weights.put weights).productions = insertProductions new weights.productions := by
  unfold insertProductions
  induction new generalizing weights with
  | nil => rfl
  | cons p new ih => rw [List.foldl_cons, List.foldl_cons, ih, weights.productions_put]

theorem mem_insertProduction {p q : Production} {productions : List Production}
    (mem : q ∈ insertProduction p productions) :
    q ∈ productions ∨ q.weight = p.weight := by
  induction productions with
  | nil =>
    obtain rfl := List.mem_singleton.mp mem
    exact .inr rfl
  | cons first rest ih =>
    unfold insertProduction at mem
    split at mem
    · rcases List.mem_cons.mp mem with rfl | mem
      · exact .inr rfl
      · exact .inl (List.mem_cons_of_mem first mem)
    · rcases List.mem_cons.mp mem with rfl | mem
      · exact .inl List.mem_cons_self
      · exact (ih mem).imp_left (List.mem_cons_of_mem first)

theorem insertProductions_weight {new old : List Production}
    (checked : ∀ p ∈ old, isWeight p.weight = true) (fresh : ∀ p ∈ new, isWeight p.weight = true) :
    ∀ p ∈ insertProductions new old, isWeight p.weight = true := by
  unfold insertProductions
  induction new generalizing old with
  | nil => exact checked
  | cons p new ih =>
    rw [List.foldl_cons]
    apply ih
    · intro q mem
      rcases mem_insertProduction mem with mem | same
      · exact checked q mem
      · rw [same]
        exact fresh p List.mem_cons_self
    · intro q mem
      exact fresh q (List.mem_cons_of_mem p mem)

/- What a grammar and a map have in common. -/

/-- The grammar has the rules of the map, its index is in step, and its weights are checked. -/
structure Represents (g : Grammar) (m : RuleMap) : Prop where
  rules : g.rules = m.rules
  inStep : g.InStep
  checked : ∀ r ∈ g.rules, ∀ p ∈ r.productions, isWeight p.weight = true

namespace RuleMap

theorem names (m : RuleMap) : m.rules.map Rule.name = m.keys := by
  simp [rules, OrderedMap.keys, Function.comp_def]

theorem rules_add_of_mem {m : RuleMap} {name : String} (inside : name ∈ m.keys)
    (new : List Production) : (m.add (name, new)).rules = m.rules.map (Rule.extend name new) := by
  unfold rules add
  rw [OrderedMap.entries_update, if_pos inside, List.map_map, List.map_map]
  apply List.map_congr_left
  rintro ⟨other, weights⟩ _
  simp only [Function.comp_apply, OrderedMap.change, Rule.extend]
  split
  · simp [Weights.productions_foldl_put]
  · rfl

theorem rules_add_of_not_mem {m : RuleMap} {name : String} (outside : name ∉ m.keys)
    (new : List Production) :
    (m.add (name, new)).rules = (m.rules ++ [(⟨name, []⟩ : Rule)]).map (Rule.extend name new) := by
  have others : m.rules.map (Rule.extend name new) = m.rules := by
    rw [List.map_congr_left, List.map_id]
    intro r mem
    have apart : r.name ≠ name := by
      rintro rfl
      apply outside
      rw [← m.names]
      exact List.mem_map_of_mem mem
    simp [Rule.extend, apart]
  rw [List.map_append, others]
  unfold rules add
  rw [OrderedMap.entries_update, if_neg outside, List.map_append]
  simp only [List.map_cons, List.map_nil, Rule.extend, if_true, Weights.productions_foldl_put]
  rfl

end RuleMap

namespace Represents

variable {g : Grammar} {m : RuleMap} (h : Represents g m)

include h

theorem mem_keys (name : String) : name ∈ m.keys ↔ (g.index[name]?).isSome := by
  rw [← m.names, ← h.rules, List.mem_map, Option.isSome_iff_exists]
  constructor
  · rintro ⟨r, mem, rfl⟩
    obtain ⟨slot, here⟩ := List.mem_iff_getElem?.mp mem
    exact ⟨slot, h.inStep.place_of_rule here⟩
  · rintro ⟨slot, found⟩
    obtain ⟨r, here, same⟩ := h.inStep.exists_rule found
    exact ⟨r, List.mem_of_getElem? here, same⟩

theorem insert {name : String} {new : List Production}
    (fresh : ∀ p ∈ new, isWeight p.weight = true) :
    Represents (g.insert name new) (m.add (name, new)) where
  rules := by
    rw [h.inStep.rules_insert]
    unfold Grammar.place
    cases found : g.index[name]? with
    | some slot =>
      have inside : name ∈ m.keys := (h.mem_keys name).mpr (by simp [found])
      rw [RuleMap.rules_add_of_mem inside, h.rules]
    | none =>
      have outside : name ∉ m.keys := fun inside => by
        simpa [found] using (h.mem_keys name).mp inside
      rw [RuleMap.rules_add_of_not_mem outside, ← h.rules]
  inStep := h.inStep.insert name new
  checked := by
    rw [h.inStep.rules_insert, List.forall_mem_map]
    intro r mem
    have old : ∀ p ∈ r.productions, isWeight p.weight = true := by
      unfold Grammar.place at mem
      split at mem
      · exact h.checked r mem
      · rcases List.mem_append.mp mem with mem | last
        · exact h.checked r mem
        · obtain rfl := List.mem_singleton.mp last
          simp
    unfold Rule.extend
    split
    · exact insertProductions_weight old fresh
    · exact old

theorem insertAll {entries : List Entry}
    (fresh : ∀ entry ∈ entries, ∀ p ∈ entry.2, isWeight p.weight = true) :
    Represents (g.insertAll entries) (entries.foldl RuleMap.add m) := by
  unfold Grammar.insertAll
  induction entries generalizing g m with
  | nil => exact h
  | cons entry entries ih =>
    have first : Represents (g.insert entry.1 entry.2) (m.add entry) :=
      h.insert (fresh entry List.mem_cons_self)
    exact ih first fun other mem => fresh other (List.mem_cons_of_mem entry mem)

theorem remove (name : String) : Represents (g.remove name) (OrderedMap.erase m name) where
  rules := by
    rw [h.inStep.rules_remove, h.rules]
    simp [RuleMap.rules, OrderedMap.erase, List.filter_map, Function.comp_def]
  inStep := h.inStep.remove name
  checked := by
    rw [h.inStep.rules_remove]
    intro r mem
    exact h.checked r (List.mem_of_mem_filter mem)

theorem run (call : Call) : Represents (call.run g).1 (m.change call) := by
  cases call with
  | add a =>
    rw [Call.run, a.run_eq]
    exact h.insertAll a.accepted_weight
  | remove name => exact h.remove name
  | clear => exact ⟨rfl, inStep_clear g, by simp [Call.run, Grammar.clear]⟩

end Represents

theorem represents_after (calls : List Call) : Represents (after calls) (RuleMap.after calls) := by
  have start : Represents empty ∅ := ⟨rfl, inStep_empty, by simp [empty]⟩
  have run : ∀ (g : Grammar) (m : RuleMap), Represents g m → Represents
      (calls.foldl (fun g call => (call.run g).1) g) (calls.foldl RuleMap.change m) := by
    induction calls with
    | nil => exact fun g m h => h
    | cons call calls ih => exact fun g m h => ih _ _ (h.run call)
  exact run empty ∅ start

/- What this says about the rules. -/

theorem RuleMap.find?_rules (m : RuleMap) (name : String) :
    (m.rules.find? fun r => r.name = name) =
      (OrderedMap.get? m name).map fun weights => ⟨name, weights.productions⟩ := by
  unfold RuleMap.rules OrderedMap.get?
  rw [List.find?_map]
  cases found : m.entries.find? fun e => e.1 = name with
  | none => simp [found]
  | some entry =>
    have same : entry.1 = name := by simpa using List.find?_some found
    simp [found, same]

/-- The texts of the productions that the rule of a name has, if there is one. -/
def textsOf (g : Grammar) (name : String) : List String :=
  match g.get? name with
  | some r => r.productions.map Production.text
  | none => []

theorem Represents.textsOf {g : Grammar} {m : RuleMap} (h : Represents g m) (name : String) :
    g.textsOf name = ((OrderedMap.get? m name).getD ∅).keys := by
  unfold Grammar.textsOf
  rw [h.inStep.get?_eq_find?, h.rules, m.find?_rules]
  cases OrderedMap.get? m name with
  | none => rfl
  | some weights => exact weights.texts

def Addition.names (a : Addition) : List String := a.accepted.1.map Prod.fst

def Addition.texts (a : Addition) (name : String) : List String :=
  (a.accepted.1.filter fun entry => entry.1 = name).flatMap fun entry =>
    entry.2.map Production.text

theorem RuleMap.keys_add (m : RuleMap) (a : Addition) :
    (m.change (.add a)).keys = (m.keys ++ a.names).eraseDups :=
  m.keys_foldl_update Prod.fst (fun _ => ∅) (fun (entry : Entry) => entry.2.foldl Weights.put)
    a.accepted.1

theorem RuleMap.texts_add (m : RuleMap) (a : Addition) (name : String) :
    ((OrderedMap.get? (m.change (.add a)) name).getD ∅).keys =
      (((OrderedMap.get? m name).getD ∅).keys ++ a.texts name).eraseDups := by
  have weights : (OrderedMap.get? (m.change (.add a)) name).getD ∅ =
      (a.accepted.1.filter fun entry => entry.1 = name).foldl
        (fun weights entry => entry.2.foldl Weights.put weights)
        ((OrderedMap.get? m name).getD ∅) :=
    m.get?_foldl_update Prod.fst ∅ (fun (entry : Entry) => entry.2.foldl Weights.put)
      a.accepted.1 name
  rw [weights, Addition.texts, ← List.map_flatMap, ← List.foldl_flatMap]
  exact OrderedMap.keys_foldl_update _ Production.text Production.weight (fun p _ => p.weight) _

/-- A grammar is an ordered map: its rules are those of the map, in order; the index holds the names
of the rules with their places; and what a further call changes is what it changes in a map. -/
structure Refines (g : Grammar) (m : RuleMap) : Prop where
  rules : g.rules = m.rules
  names : (g.rules.map Rule.name).Nodup
  index (name : String) (slot : Nat) :
    g.index[name]? = some slot ↔ g.rules[slot]?.map Rule.name = some name
  hasRule (name : String) : g.hasRule name = g.rules.any fun r => r.name = name
  get? (name : String) : g.get? name = g.rules.find? fun r => r.name = name
  texts : ∀ r ∈ g.rules, (r.productions.map Production.text).Nodup
  weights : ∀ r ∈ g.rules, ∀ p ∈ r.productions, Number.isFinite p.weight = true ∧ 0 < p.weight
  /-- New rules stand behind the others, in the order in which they are first named. -/
  addedNames (a : Addition) :
    (a.run g).1.rules.map Rule.name = (g.rules.map Rule.name ++ a.names).eraseDups
  /-- So do new productions within their rule. -/
  addedTexts (a : Addition) (name : String) :
    (a.run g).1.textsOf name = (g.textsOf name ++ a.texts name).eraseDups
  removed (name : String) : (g.remove name).rules = g.rules.filter fun r => r.name ≠ name

/-- After any calls, failed ones among them, a grammar is an ordered map of ordered maps. -/
theorem after_refines (calls : List Call) : Refines (after calls) (RuleMap.after calls) := by
  have h := represents_after calls
  have added (a : Addition) :
      Represents (a.run (after calls)).1 ((RuleMap.after calls).change (.add a)) := h.run (.add a)
  constructor
  case rules => exact h.rules
  case names => exact h.inStep.nodup_names
  case index => exact h.inStep
  case hasRule => exact h.inStep.hasRule_eq_any
  case get? => exact h.inStep.get?_eq_find?
  case texts =>
    rw [h.rules]
    intro r mem
    obtain ⟨entry, _, rfl⟩ := List.mem_map.mp mem
    rw [entry.2.texts]
    exact entry.2.distinct
  case weights =>
    intro r mem p inside
    have checked := h.checked r mem p inside
    simpa [isWeight] using checked
  case addedNames =>
    intro a
    rw [h.rules, (added a).rules, RuleMap.names, RuleMap.names, RuleMap.keys_add]
  case addedTexts =>
    intro a name
    rw [(added a).textsOf, h.textsOf, RuleMap.texts_add]
  case removed => exact h.inStep.rules_remove

end TextGen.Grammar
