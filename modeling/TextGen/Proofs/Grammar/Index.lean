import Mathlib
import TextGen.Grammar.Rules

/-! The index of a grammar.
Rules stand in a list, and the index holds the place of each. They are in step if the index holds
the names of the rules with their places and nothing else; then a name is found by the index exactly
where a scan finds it. Every change keeps them in step. -/
namespace TextGen.Grammar

def InStep (g : Grammar) : Prop :=
  ∀ (name : String) (place : Nat),
    g.index[name]? = some place ↔ g.rules[place]?.map Rule.name = some name

def Rule.extend (name : String) (new : List Production) (r : Rule) : Rule :=
  if r.name = name then { r with productions := insertProductions new r.productions } else r

variable {g : Grammar} {name : String} {slot : Nat} {r : Rule}

/- What being in step says about the rules. -/

theorem InStep.place_of_rule (h : g.InStep) (found : g.rules[slot]? = some r) :
    g.index[r.name]? = some slot := by
  rw [h, found]
  rfl

theorem InStep.exists_rule (h : g.InStep) (found : g.index[name]? = some slot) :
    ∃ r, g.rules[slot]? = some r ∧ r.name = name := by
  have mapped := (h name slot).mp found
  obtain ⟨r, here, same⟩ := Option.map_eq_some_iff.mp mapped
  exact ⟨r, here, same⟩

theorem InStep.name_ne_of_absent (h : g.InStep) (absent : g.index[name]? = none) :
    ∀ r ∈ g.rules, r.name ≠ name := by
  rintro r mem rfl
  obtain ⟨slot, here⟩ := List.mem_iff_getElem?.mp mem
  cases absent.symm.trans (h.place_of_rule here)

theorem InStep.name_eq_iff (h : g.InStep) (found : g.index[name]? = some slot) {other : Nat}
    (there : g.rules[other]? = some r) : r.name = name ↔ other = slot := by
  constructor
  · rintro rfl
    exact Option.some.inj ((h.place_of_rule there).symm.trans found)
  · rintro rfl
    obtain ⟨own, here, same⟩ := h.exists_rule found
    cases there.symm.trans here
    exact same

theorem InStep.nodup_names (h : g.InStep) : (g.rules.map Rule.name).Nodup := by
  rw [List.nodup_iff_getElem?_ne_getElem?]
  intro i j less bound same
  rw [List.length_map] at bound
  have first : g.rules[i]? = some g.rules[i] := List.getElem?_eq_getElem (less.trans bound)
  have second : g.rules[j]? = some g.rules[j] := List.getElem?_eq_getElem bound
  rw [List.getElem?_map, List.getElem?_map, first, second] at same
  have names : g.rules[i].name = g.rules[j].name := Option.some.inj same
  have own := h.place_of_rule second
  exact less.ne ((h.name_eq_iff own first).mp names)

theorem InStep.get?_eq_find? (h : g.InStep) (name : String) :
    g.get? name = g.rules.find? fun r => r.name = name := by
  unfold get?
  cases found : g.index[name]? with
  | none =>
    symm
    rw [Option.bind_none, List.find?_eq_none]
    intro r mem same
    exact h.name_ne_of_absent found r mem (by simpa using same)
  | some slot =>
    obtain ⟨r, here, own⟩ := h.exists_rule found
    rw [Option.bind_some, here]
    symm
    obtain ⟨bound, rfl⟩ := List.getElem?_eq_some_iff.mp here
    rw [List.find?_eq_some_iff_getElem]
    refine ⟨by simpa using own, slot, bound, rfl, ?_⟩
    intro j less
    have there : g.rules[j]? = some g.rules[j] := List.getElem?_eq_getElem (less.trans bound)
    have other : g.rules[j].name ≠ name := by
      intro same
      exact less.ne ((h.name_eq_iff found there).mp same)
    simpa using other

theorem InStep.hasRule_eq_any (h : g.InStep) (name : String) :
    g.hasRule name = g.rules.any fun r => r.name = name := by
  have looked : g.hasRule name = (g.get? name).isSome := by
    rw [hasRule, Std.HashMap.contains_eq_isSome_getElem?]
    unfold get?
    cases found : g.index[name]? with
    | none => rfl
    | some slot =>
      obtain ⟨r, here, _⟩ := h.exists_rule found
      rw [Option.bind_some, here]
      rfl
  rw [looked, h.get?_eq_find?, Bool.eq_iff_iff, List.find?_isSome, List.any_eq_true]

/- The changes. -/

theorem inStep_empty : empty.InStep := by
  intro name place
  simp [empty]

theorem inStep_clear (g : Grammar) : g.clear.InStep := by
  intro name place
  simp [clear]

theorem InStep.afterPlace (h : g.InStep) (name : String) : (g.place name).2.InStep := by
  intro other slot
  unfold Grammar.place
  cases found : g.index[name]? with
  | some own => exact h other slot
  | none =>
    have absent := h.name_ne_of_absent found
    simp only [Std.HashMap.getElem?_insert, List.getElem?_append, beq_iff_eq]
    by_cases inside : slot < g.rules.length
    · have there : g.rules[slot]? = some g.rules[slot] := List.getElem?_eq_getElem inside
      rw [if_pos inside]
      by_cases same : name = other
      · subst same
        have different := absent _ (List.getElem_mem inside)
        simp [there, different, inside.ne']
      · rw [if_neg same]
        exact h other slot
    · rw [if_neg inside]
      by_cases same : name = other
      · subst same
        by_cases last : slot = g.rules.length
        · simp [last]
        · have beyond : slot - g.rules.length ≠ 0 := by omega
          cases left : slot - g.rules.length with
          | zero => exact absurd left beyond
          | succ k => simp [Ne.symm last]
      · rw [if_neg same, h other slot, List.getElem?_eq_none (Nat.le_of_not_lt inside)]
        cases slot - g.rules.length with
        | zero => simp [same]
        | succ k => simp

theorem index_place (g : Grammar) (name : String) :
    (g.place name).2.index[name]? = some (g.place name).1 := by
  unfold Grammar.place
  cases found : g.index[name]? with
  | some own => exact found
  | none => simp

theorem InStep.rules_insert (h : g.InStep) (name : String) (new : List Production) :
    (g.insert name new).rules = (g.place name).2.rules.map (Rule.extend name new) := by
  unfold Grammar.insert
  apply List.ext_getElem?
  intro slot
  rw [List.getElem?_modify, List.getElem?_map]
  cases there : (g.place name).2.rules[slot]? with
  | none => rfl
  | some r =>
    have own := (h.afterPlace name).name_eq_iff (index_place g name) there
    by_cases same : r.name = name
    · simp [Rule.extend, same, own.mp same]
    · have other : (g.place name).1 ≠ slot := fun here => same (own.mpr here.symm)
      simp [Rule.extend, same, other]

theorem InStep.insert (h : g.InStep) (name : String) (new : List Production) :
    (g.insert name new).InStep := by
  intro other slot
  have names : (g.insert name new).rules[slot]?.map Rule.name =
      (g.place name).2.rules[slot]?.map Rule.name := by
    rw [h.rules_insert, List.getElem?_map, Option.map_map]
    congr 1
    funext r
    unfold Function.comp Rule.extend
    split
    · rfl
    · rfl
  rw [names]
  exact h.afterPlace name other slot

theorem eraseIdx_eq_filter {α : Type} {test : α → Bool} {items : List α} {slot : Nat}
    (inside : slot < items.length)
    (only : ∀ i x, items[i]? = some x → (test x = false ↔ i = slot)) :
    items.eraseIdx slot = items.filter test := by
  induction items generalizing slot with
  | nil => cases inside
  | cons x items ih =>
    cases slot with
    | zero =>
      have fails : test x = false := (only 0 x rfl).mpr rfl
      have others : ∀ y ∈ items, test y = true := by
        intro y mem
        obtain ⟨i, here⟩ := List.mem_iff_getElem?.mp mem
        by_contra fails
        have first := (only (i + 1) y here).mp (by simpa using fails)
        cases first
      rw [List.eraseIdx_cons_zero, List.filter_cons_of_neg (by simp [fails]),
        List.filter_eq_self.mpr others]
    | succ slot =>
      have passes : test x = true := by
        by_contra fails
        have first := (only 0 x rfl).mp (by simpa using fails)
        cases first
      have later : ∀ i y, items[i]? = some y → (test y = false ↔ i = slot) := by
        intro i y here
        rw [only (i + 1) y here, Nat.add_right_cancel_iff]
      rw [List.eraseIdx_cons_succ, List.filter_cons_of_pos passes,
        ih (Nat.lt_of_succ_lt_succ inside) later]

theorem InStep.rules_remove (h : g.InStep) (name : String) :
    (g.remove name).rules = g.rules.filter fun r => r.name ≠ name := by
  unfold remove
  cases found : g.index[name]? with
  | none =>
    symm
    rw [List.filter_eq_self]
    intro r mem
    simpa using h.name_ne_of_absent found r mem
  | some slot =>
    obtain ⟨r, here, _⟩ := h.exists_rule found
    obtain ⟨inside, _⟩ := List.getElem?_eq_some_iff.mp here
    apply eraseIdx_eq_filter inside
    intro i r there
    rw [← h.name_eq_iff found there]
    simp

theorem InStep.remove (h : g.InStep) (name : String) : (g.remove name).InStep := by
  intro other place
  unfold Grammar.remove
  cases found : g.index[name]? with
  | none => exact h other place
  | some slot =>
    simp only [Std.HashMap.getElem?_map, Std.HashMap.getElem?_erase, beq_iff_eq,
      List.getElem?_eraseIdx]
    -- the rule at a place of what is left stood there or one place behind
    by_cases same : name = other
    · subst same
      have others : ∀ i r, g.rules[i]? = some r → i ≠ slot → r.name ≠ name := by
        intro i r there apart own
        exact apart ((h.name_eq_iff found there).mp own)
      simp only [if_pos, Option.map_none, reduceCtorEq, false_iff]
      intro left
      obtain ⟨r, there, own⟩ := Option.map_eq_some_iff.mp left
      split at there
      · next before => exact others place r there before.ne own
      · next behind => exact others (place + 1) r there (by omega) own
    · rw [if_neg same]
      have apart : ∀ i, g.index[other]? = some i → i ≠ slot := by
        rintro i there rfl
        obtain ⟨r, here, own⟩ := h.exists_rule found
        exact same (own.symm.trans ((h.name_eq_iff there here).mpr rfl))
      rw [Option.map_eq_some_iff]
      constructor
      · rintro ⟨i, there, moved⟩
        have away := apart i there
        have stood := (h other i).mp there
        by_cases behind : slot < i
        · rw [if_pos behind] at moved
          have next : place + 1 = i := by omega
          rw [if_neg (by omega), next]
          exact stood
        · rw [if_neg behind] at moved
          subst moved
          rw [if_pos (by omega)]
          exact stood
      · intro left
        split at left
        · next before => exact ⟨place, (h other place).mpr left, if_neg (by omega)⟩
        · next behind =>
          refine ⟨place + 1, (h other (place + 1)).mpr left, ?_⟩
          rw [if_pos (by omega)]
          rfl

end TextGen.Grammar
