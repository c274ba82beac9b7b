import Mathlib
import TextGen.Grammar.Expansion
import TextGen.Proofs.Grammar.References
import TextGen.Proofs.Random.Drawn

/-! When an expansion stops.
A step takes a name out of the text and puts a production in its place. If the production forms no
name with what stands beside it, then the names in the new text are those that were beside it and
those of the production, so the cost of the text falls. A text is therefore rewritten no more often
than it costs. A step also ends the rewriting if its draw fails. -/
namespace TextGen.Grammar

open Relation (ReflTransGen)

def Rule.outcomes (r : Rule) : List String :=
  match r.productions with
  | [] => [""]
  | productions => productions.map Production.text

/-- A draw among the productions fails: their weights have no finite sum. -/
def Rule.Overflows (r : Rule) : Prop :=
  2 ≤ r.productions.length ∧ Source.Overflows (r.productions.map Production.weight)

instance (r : Rule) : Decidable r.Overflows := inferInstanceAs (Decidable (_ ∧ _))

/-- A step, whatever is drawn. -/
def Rewrites (g : Grammar) (text new : List Char) : Prop :=
  ∃ r before after, g.applicable? text = some (r, before, after) ∧
    ∃ outcome ∈ r.outcomes, new = before ++ outcome.toList ++ after

/-- No step from a text that can be reached forms a name across an end of what it puts in. -/
def Seamless (g : Grammar) (start : List Char) : Prop :=
  ∀ text r before after, ReflTransGen g.Rewrites start text →
    g.applicable? text = some (r, before, after) →
    ∀ outcome ∈ r.outcomes, ∀ other ∈ g.rules,
      Text.Apart other.name.toList before (outcome.toList ++ after) ∧
      Text.Apart other.name.toList (before ++ outcome.toList) after

/-- A rule name stands in the text. -/
def HoldsName (g : Grammar) (text : List Char) : Prop := ∃ r ∈ g.rules, r.name.toList <:+: text

/-- The first rule whose name stands in the text is one whose draw fails. -/
def Breaks (g : Grammar) (text : List Char) : Prop :=
  ∃ r ∈ g.rules.find? (fun r => r.name.toList <:+: text), r.Overflows

variable {g : Grammar} {text new before after : List Char} {r : Rule} {s : Source}

/-- Of several productions the one at the place drawn is picked. The draw fails only if the weights
overflow. -/
theorem Rule.pick_several (several : 2 ≤ r.productions.length) (s : Source) :
    r.Overflows ∧ r.pick s = (.error .overflow, s) ∨
    ¬ r.Overflows ∧ ∃ i s' p, s.weightedIndex? (r.productions.map Production.weight) = (.ok i, s') ∧
      r.productions[i.getD 0]? = some p ∧ r.pick s = (.ok p.text, s') := by
  obtain ⟨name, productions⟩ := r
  match productions, several with
  | first :: second :: others, several =>
    have picks : (Rule.mk name (first :: second :: others)).pick s =
      (s.weightedIndex? ((first :: second :: others).map Production.weight)).andThen fun i s =>
        (.ok (((first :: second :: others)[i.getD 0]?).getD first).text, s) := rfl
    rcases Source.weightedIndex?_cases ((first :: second :: others).map Production.weight) s with
      ⟨overflows, failed⟩ | ⟨fits, i, s', drawn, inside⟩
    · refine .inl ⟨⟨several, overflows⟩, ?_⟩
      rw [picks, failed, Drawn.andThen_error]
    · have place : i.getD 0 < (first :: second :: others).length := by
        cases i with
        | none => exact Nat.succ_pos _
        | some i => simpa using inside i rfl
      have found := List.getElem?_eq_getElem place
      refine .inr ⟨fun h => fits h.2, i, s', _, drawn, found, ?_⟩
      rw [picks, drawn, Drawn.andThen_ok, found, Option.getD_some]

theorem Rule.pick_cases (r : Rule) (s : Source) :
    r.Overflows ∧ r.pick s = (.error .overflow, s) ∨
    ¬ r.Overflows ∧ ∃ outcome ∈ r.outcomes, ∃ s', r.pick s = (.ok outcome, s') := by
  by_cases several : 2 ≤ r.productions.length
  · refine (r.pick_several several s).imp_right fun ⟨fits, i, s', p, _, found, picked⟩ => ?_
    have mem := List.mem_of_getElem? found
    refine ⟨fits, p.text, ?_, s', picked⟩
    unfold Rule.outcomes
    split
    · rename_i none_
      rw [none_] at mem
      cases mem
    · exact List.mem_map_of_mem mem
  · refine .inr ⟨fun h => several h.1, ?_⟩
    unfold Rule.outcomes Rule.pick
    match r.productions, several with
    | [], _ => exact ⟨"", List.mem_singleton_self _, s, rfl⟩
    | [only], _ => exact ⟨only.text, List.mem_singleton_self _, s, rfl⟩
    | _ :: _ :: _, several => exact absurd (Nat.le_add_left 2 _) several

theorem applicable?_eq_some_iff {r : Rule} {before after : List Char} :
    g.applicable? text = some (r, before, after) ↔
    ∃ earlier later, g.rules = earlier ++ r :: later ∧
      Text.cut? r.name.toList text = some (before, after) ∧
      ∀ other ∈ earlier, ¬ other.name.toList <:+: text := by
  have cut (other : Rule) :
      (Text.cut? other.name.toList text).map (other, ·) = some (r, before, after) ↔
        other = r ∧ Text.cut? r.name.toList text = some (before, after) := by
    rw [Option.map_eq_some_iff]
    constructor
    · rintro ⟨parts, found, same⟩
      cases same
      exact ⟨rfl, found⟩
    · rintro ⟨rfl, found⟩
      exact ⟨_, found, rfl⟩
  simp only [applicable?, List.findSome?_eq_some_iff, cut, Option.map_eq_none_iff,
    Text.cut?_eq_none_iff]
  constructor
  · rintro ⟨earlier, _, later, rules, ⟨rfl, found⟩, first⟩
    exact ⟨earlier, later, rules, found, first⟩
  · rintro ⟨earlier, later, rules, found, first⟩
    exact ⟨earlier, r, later, rules, ⟨rfl, found⟩, first⟩

theorem applicable?_eq_some (found : g.applicable? text = some (r, before, after)) :
    r ∈ g.rules ∧ text = before ++ r.name.toList ++ after := by
  obtain ⟨earlier, later, rules, cut, _⟩ := applicable?_eq_some_iff.mp found
  exact ⟨by simp [rules], Text.eq_of_cut? cut⟩

theorem applicable?_eq_none_iff :
    g.applicable? text = none ↔ ∀ r ∈ g.rules, ¬ r.name.toList <:+: text := by
  simp [applicable?, List.findSome?_eq_none_iff, Text.cut?_eq_none_iff]

theorem find?_of_applicable? (found : g.applicable? text = some (r, before, after)) :
    g.rules.find? (fun r => r.name.toList <:+: text) = some r := by
  obtain ⟨earlier, later, rules, cut, first⟩ := applicable?_eq_some_iff.mp found
  have stands : r.name.toList <:+: text := ⟨before, after, (Text.eq_of_cut? cut).symm⟩
  exact List.find?_eq_some_iff_append.mpr ⟨decide_eq_true stands, earlier, later, rules,
    fun other mem => by simpa using first other mem⟩

theorem step?_cases (g : Grammar) (text : List Char) (s : Source) :
    g.step? text s = none ∧ ¬ g.HoldsName text ∨
    g.step? text s = some (.error .overflow, s) ∧ g.Breaks text ∨
    ∃ new s', g.step? text s = some (.ok new, s') ∧ ¬ g.Breaks text ∧ g.Rewrites text new := by
  cases found : g.applicable? text with
  | none =>
    refine .inl ⟨by rw [step?, found]; rfl, ?_⟩
    rintro ⟨r, mem, stands⟩
    exact applicable?_eq_none_iff.mp found r mem stands
  | some parts =>
    obtain ⟨r, before, after⟩ := parts
    have breaks : g.Breaks text ↔ r.Overflows := by
      rw [Breaks, find?_of_applicable? found]
      simp
    simp only [step?, found, Option.map_some]
    rcases r.pick_cases s with ⟨overflows, failed⟩ | ⟨fits, outcome, inside, s', picked⟩
    · rw [failed, Drawn.andThen_error]
      exact .inr (.inl ⟨rfl, breaks.mpr overflows⟩)
    · rw [picked, Drawn.andThen_ok]
      exact .inr (.inr ⟨_, s', rfl, mt breaks.mp fits, r, before, after, found, outcome, inside,
        rfl⟩)

theorem Breaks.holdsName (breaks : g.Breaks text) : g.HoldsName text := by
  obtain ⟨r, found, _⟩ := breaks
  exact ⟨r, List.mem_of_find?_eq_some found, by simpa using List.find?_some found⟩

theorem Rewrites.holdsName (step : g.Rewrites text new) : g.HoldsName text := by
  obtain ⟨r, before, after, found, _⟩ := step
  obtain ⟨mem, rfl⟩ := applicable?_eq_some found
  exact ⟨r, mem, before, after, rfl⟩

theorem not_breaks (fits : ∀ r ∈ g.rules, ¬ r.Overflows) (text : List Char) : ¬ g.Breaks text := by
  rintro ⟨r, found, overflows⟩
  exact fits r (List.mem_of_find?_eq_some found) overflows

/- What a step costs. -/

section Cost

variable {rules : List Rule}

/-- No name is empty. -/
def Named (rules : List Rule) : Prop := ∀ r ∈ rules, r.name ≠ ""

theorem Named.toList_ne_nil (named : Named rules) (mem : r ∈ rules) : r.name.toList ≠ [] := by
  intro empty
  exact named r mem (String.toList_eq_nil_iff.mp empty)

theorem cost_append {x y : List Char} (named : Named rules)
    (apart : ∀ r ∈ rules, Text.Apart r.name.toList x y) :
    cost rules (x ++ y) = cost rules x + cost rules y := by
  unfold cost charge
  rw [← List.sum_map_add]
  congr 1
  apply List.map_congr_left
  intro r mem
  rw [Text.occurrences_append (named.toList_ne_nil mem) (apart r mem), Nat.mul_add]

theorem cost_append_ge (named : Named rules) (x y : List Char) :
    cost rules x + cost rules y ≤ cost rules (x ++ y) := by
  unfold cost charge
  rw [← List.sum_map_add]
  apply List.sum_le_sum
  intro r mem
  rw [← Nat.mul_add]
  exact Nat.mul_le_mul_left _ (Text.occurrences_append_ge (named.toList_ne_nil mem))

theorem price_le_cost_name (mem : r ∈ rules) : price rules r ≤ cost rules r.name.toList := by
  have stands : 0 < Text.occurrences r.name.toList r.name.toList :=
    Text.occurrences_pos_iff.mpr List.infix_rfl
  have paid : price rules r * Text.occurrences r.name.toList r.name.toList ≤
      cost rules r.name.toList :=
    List.single_le_sum (by simp) _ (List.mem_map_of_mem mem)
  exact (Nat.le_mul_of_pos_right _ stands).trans paid

theorem cost_eq_zero {text : List Char} (free : ∀ r ∈ rules, ¬ r.name.toList <:+: text) :
    cost rules text = 0 := by
  unfold cost charge
  rw [List.sum_eq_zero_iff]
  intro n inside
  obtain ⟨r, mem, rfl⟩ := List.mem_map.mp inside
  rw [Text.occurrences_eq_zero (free r mem), Nat.mul_zero]

theorem cost_nil (named : Named rules) : cost rules [] = 0 := by
  apply cost_eq_zero
  intro r mem inside
  exact named.toList_ne_nil mem (List.eq_nil_of_infix_nil inside)

end Cost

theorem cost_outcome_lt (acyclic : Acyclic g.rules) (named : Named g.rules) (mem : r ∈ g.rules)
    {outcome : String} (inside : outcome ∈ r.outcomes) :
    cost g.rules outcome.toList < price g.rules r := by
  unfold Rule.outcomes at inside
  split at inside
  · obtain rfl := List.mem_singleton.mp inside
    change cost g.rules [] < _
    rw [cost_nil named]
    exact price_pos g.rules mem
  · obtain ⟨p, own, rfl⟩ := List.mem_map.mp inside
    exact cost_lt_price acyclic mem own

theorem cost_lt_of_rewrites {start : List Char} (acyclic : Acyclic g.rules)
    (named : Named g.rules) (seamless : g.Seamless start)
    (reached : ReflTransGen g.Rewrites start text) (step : g.Rewrites text new) :
    cost g.rules new < cost g.rules text := by
  obtain ⟨r, before, after, found, outcome, inside, rfl⟩ := step
  obtain ⟨mem, rfl⟩ := applicable?_eq_some found
  have apart := seamless _ r before after reached found outcome inside
  have parts : cost g.rules (before ++ outcome.toList ++ after) =
      cost g.rules before + (cost g.rules outcome.toList + cost g.rules after) := by
    rw [List.append_assoc, cost_append named fun other mem => (apart other mem).1,
      cost_append named fun other mem => (apart other mem).2.of_append]
  have whole := cost_append_ge named (before ++ r.name.toList) after
  have left := cost_append_ge named before r.name.toList
  have name : price g.rules r ≤ cost g.rules r.name.toList := price_le_cost_name mem
  have less := cost_outcome_lt acyclic named mem inside
  omega

end TextGen.Grammar
