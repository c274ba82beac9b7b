import Mathlib
import TextGen.Grammar.Rules
import TextGen.Proofs.Text.Occurrences

/-! References between rules, and what they cost.
A rule refers to another one if the name of that one stands in one of its productions. Each place at
which a name stands has a price: the step that takes the name away, and what the production that
takes its place costs at most. The price looks through as many rules as there are, and without
cycles that is deep enough. -/
namespace TextGen.Grammar

open Relation (TransGen)

variable {rules : List Rule}

def Refers (rules : List Rule) (a b : String) : Prop :=
  ∃ r ∈ rules, r.name = a ∧ b ∈ rules.map Rule.name ∧
    ∃ p ∈ r.productions, b.toList <:+: p.text.toList

def Acyclic (rules : List Rule) : Prop := ∀ a, ¬ TransGen (Refers rules) a a

def charge (rules : List Rule) (price : Rule → Nat) (text : List Char) : Nat :=
  (rules.map fun r => price r * Text.occurrences r.name.toList text).sum

/-- The price of a name, if what lies deeper than the number of rules costs nothing. -/
def priceTo (rules : List Rule) : Nat → Rule → Nat
  | 0, _ => 0
  | depth + 1, r =>
    let costs := r.productions.map fun p => charge rules (priceTo rules depth) p.text.toList
    1 + costs.max?.getD 0

def price (rules : List Rule) (r : Rule) : Nat := priceTo rules rules.length r

def cost (rules : List Rule) (text : List Char) : Nat := charge rules (price rules) text

theorem acyclic_of_rank (rank : String → Nat)
    (falls : ∀ r ∈ rules, ∀ b ∈ rules.map Rule.name, ∀ p ∈ r.productions,
      b.toList <:+: p.text.toList → rank b < rank r.name) : Acyclic rules := by
  have along : ∀ a b, TransGen (Refers rules) a b → rank b < rank a := by
    intro a b path
    induction path with
    | single step =>
      obtain ⟨r, mem, rfl, named, p, inside, stands⟩ := step
      exact falls r mem _ named p inside stands
    | tail _ step ih =>
      obtain ⟨r, mem, rfl, named, p, inside, stands⟩ := step
      exact (falls r mem _ named p inside stands).trans ih
  intro a cycle
  exact lt_irrefl _ (along a a cycle)

/- The names that can be reached become fewer with every reference. -/

open Classical in
noncomputable def reach (rules : List Rule) (a : String) : Finset String :=
  (rules.map Rule.name).toFinset.filter fun b => TransGen (Refers rules) a b

theorem mem_reach {a b : String} :
    b ∈ reach rules a ↔ b ∈ rules.map Rule.name ∧ TransGen (Refers rules) a b := by
  simp [reach]

theorem card_reach_lt_of_refers (acyclic : Acyclic rules) {a b : String}
    (refers : Refers rules a b) : (reach rules b).card < (reach rules a).card := by
  apply Finset.card_lt_card
  rw [Finset.ssubset_iff_of_subset]
  · obtain ⟨r, mem, rfl, named, production⟩ := refers
    have step : Refers rules r.name b := ⟨r, mem, rfl, named, production⟩
    exact ⟨b, mem_reach.mpr ⟨named, .single step⟩, fun self => acyclic b (mem_reach.mp self).2⟩
  · intro c inside
    obtain ⟨named, path⟩ := mem_reach.mp inside
    exact mem_reach.mpr ⟨named, .head refers path⟩

theorem card_reach_lt (acyclic : Acyclic rules) {r : Rule} (mem : r ∈ rules) :
    (reach rules r.name).card < rules.length := by
  have fewer : (reach rules r.name).card < (rules.map Rule.name).toFinset.card := by
    apply Finset.card_lt_card
    have within : reach rules r.name ⊆ (rules.map Rule.name).toFinset :=
      fun b inside => List.mem_toFinset.mpr (mem_reach.mp inside).1
    rw [Finset.ssubset_iff_of_subset within]
    have named : r.name ∈ (rules.map Rule.name).toFinset := by
      rw [List.mem_toFinset]
      exact List.mem_map_of_mem mem
    exact ⟨r.name, named, fun self => acyclic r.name (mem_reach.mp self).2⟩
  have all := List.toFinset_card_le (rules.map Rule.name)
  rw [List.length_map] at all
  exact fewer.trans_le all

/- The price is deep enough. -/

theorem charge_congr {one other : Rule → Nat} {text : List Char}
    (same : ∀ r ∈ rules, r.name.toList <:+: text → one r = other r) :
    charge rules one text = charge rules other text := by
  unfold charge
  congr 1
  apply List.map_congr_left
  intro r mem
  by_cases stands : r.name.toList <:+: text
  · rw [same r mem stands]
  · rw [Text.occurrences_eq_zero stands, Nat.mul_zero, Nat.mul_zero]

theorem priceTo_eq (acyclic : Acyclic rules) {depth deeper : Nat} {r : Rule} (mem : r ∈ rules)
    (enough : (reach rules r.name).card < depth) (more : (reach rules r.name).card < deeper) :
    priceTo rules depth r = priceTo rules deeper r := by
  -- what a production refers to reaches fewer names, so the depth left is enough for it
  induction depth generalizing deeper r with
  | zero => omega
  | succ depth ih =>
    cases deeper with
    | zero => omega
    | succ deeper =>
      have costs : ∀ p ∈ r.productions,
          charge rules (priceTo rules depth) p.text.toList =
            charge rules (priceTo rules deeper) p.text.toList := by
        intro p inside
        apply charge_congr
        intro other named stands
        have refers : Refers rules r.name other.name :=
          ⟨r, mem, rfl, List.mem_map_of_mem named, p, inside, stands⟩
        have fewer := card_reach_lt_of_refers acyclic refers
        exact ih named (by omega) (by omega)
      simp only [priceTo, List.map_congr_left costs]

theorem price_eq (acyclic : Acyclic rules) {r : Rule} (mem : r ∈ rules) :
    price rules r = 1 + (r.productions.map fun p => cost rules p.text.toList).max?.getD 0 := by
  have few := card_reach_lt acyclic mem
  exact priceTo_eq acyclic mem few (few.trans (Nat.lt_succ_self _))

theorem cost_lt_price (acyclic : Acyclic rules) {r : Rule} (mem : r ∈ rules) {p : Production}
    (inside : p ∈ r.productions) : cost rules p.text.toList < price rules r := by
  rw [price_eq acyclic mem]
  have largest : cost rules p.text.toList ≤
      (r.productions.map fun p => cost rules p.text.toList).max?.getD 0 :=
    List.le_max?_getD_of_mem (List.mem_map_of_mem inside)
  exact Nat.lt_one_add_iff.mpr largest

theorem price_pos (rules : List Rule) {r : Rule} (mem : r ∈ rules) : 0 < price rules r := by
  unfold price
  cases rules with
  | nil => cases mem
  | cons first rest =>
    rw [List.length_cons, priceTo]
    omega

end TextGen.Grammar
