import Mathlib
import TextGen.Script.Parser

/-! The grammar of scripts.
`Reads stops c t next` says that the text at `c` is a tree `t` up to `next`, where it ends or one of
the stops comes. The readers accept exactly what the grammar allows, so a statement about scripts
that can be read is proved by induction on a derivation. -/
namespace TextGen.Script

def inlineTarget? (c : Cursor) : Option (String × Cursor) := (c.skipSpaces.after? '$').bind target?

mutual

inductive Reads : List Char → Cursor → Tree → Cursor → Prop
  | done {stops b : List Char} : Reads stops ⟨b, []⟩ [] ⟨b, []⟩
  | stop {stops b rest : List Char} {first : Char} (h : first ∈ stops) :
      Reads stops ⟨b, first :: rest⟩ [] ⟨b, first :: rest⟩
  | cons {stops b rest : List Char} {first : Char} {n : Node} {mid next : Cursor} {t : Tree}
      (h : first ∉ stops) (head : ReadsNode stops first ⟨first :: b, rest⟩ n mid)
      (tail : Reads stops mid t next) : Reads stops ⟨b, first :: rest⟩ (Tree.cons n t) next

/-- A node whose first character has been read. -/
inductive ReadsNode : List Char → Char → Cursor → Node → Cursor → Prop
  | newline {stops : List Char} {c : Cursor} : ReadsNode stops '\n' c .newline c
  | assign {stops : List Char} {c equals next : Cursor} {name : String} {t : Tree}
      (target : target? c = some (name, equals))
      (value : Reads ('\n' :: stops) equals.skipSpaces t next) :
      ReadsNode stops '$' c (.assign name t.trim (signColumn c) false [])
        (afterStatement (signColumn c) next)
  | symbol {stops : List Char} {c next : Cursor} {name : String} (target : target? c = none)
      (named : c.name? = some (name, next)) :
      ReadsNode stops '$' c (.symbol name (chain next).value) (chain next).next
  | dollar {stops : List Char} {c : Cursor} (named : c.name? = none) :
      ReadsNode stops '$' c (.text "$") c
  | dynamic {stops : List Char} {c start : Cursor} {name : String}
      (target : target? c = some (name, start)) :
      ReadsNode stops '&' c (dynamic stops c).value (dynamic stops c).next
  | ampersand {stops : List Char} {c : Cursor} (target : target? c = none) :
      ReadsNode stops '&' c (.text "&") c
  | pair {stops : List Char} {c closed : Cursor} (shut : c.after? ')' = some closed) :
      ReadsNode stops '(' c (.text "()") closed
  | inlineAssign {stops : List Char} {c equals next closed : Cursor} {name : String} {t : Tree}
      (opened : c.after? ')' = none) (target : inlineTarget? c = some (name, equals))
      (value : Reads [')'] equals.skipSpaces t next) (close : next.after? ')' = some closed) :
      ReadsNode stops '(' c (.assign name t.trim c.skipSpaces.column true (chain closed).value)
        (chain closed).next
  | choice {stops : List Char} {c closed : Cursor} {alternatives : List Alternative}
      (opened : c.after? ')' = none) (target : inlineTarget? c = none)
      (body : ReadsAlternatives c alternatives closed) :
      ReadsNode stops '(' c (.choice alternatives (chain closed).value) (chain closed).next
  | brace {stops : List Char} {c : Cursor} (h : guard c = .other) :
      ReadsNode stops '\x7b' c (.text "\x7b") c
  | guardAlone {stops : List Char} {c : Cursor} {conditions : Parsed (List Condition) c.rest.length}
      (h : guard c = .conditions conditions)
      (last : ∀ first ∈ conditions.next.skipSpaces.rest.head?, first = '\n' ∨ first ∈ stops) :
      ReadsNode stops '\x7b' c (.guarded conditions.value []) conditions.next.skipSpaces
  | guarded {stops rest : List Char} {c next : Cursor}
      {conditions : Parsed (List Condition) c.rest.length} {first : Char} {n : Node}
      (h : guard c = .conditions conditions)
      (more : conditions.next.skipSpaces.rest = first :: rest) (line : first ≠ '\n')
      (inside : first ∉ stops)
      (body : ReadsNode stops first ⟨first :: conditions.next.skipSpaces.before, rest⟩ n next) :
      ReadsNode stops '\x7b' c (.guarded conditions.value [n]) next
  | close {stops : List Char} {c : Cursor} : ReadsNode stops ')' c (.text ")") c
  | bar {stops : List Char} {c : Cursor} : ReadsNode stops '|' c (.text "|") c
  | plain {stops : List Char} {c : Cursor} {first : Char} (h : first ∉ signs) :
      ReadsNode stops first c (plain stops first c).value (plain stops first c).next

inductive ReadsAlternatives : Cursor → List Alternative → Cursor → Prop
  | more {c next start closed : Cursor} {t : Tree} {alternatives : List Alternative}
      (head : Reads ['|', ')'] c t next) (bar : next.after? '|' = some start)
      (tail : ReadsAlternatives start alternatives closed) :
      ReadsAlternatives c (Alternative.ofTree t :: alternatives) closed
  | last {c next closed : Cursor} {t : Tree} (head : Reads ['|', ')'] c t next)
      (bar : next.after? '|' = none) (close : next.after? ')' = some closed) :
      ReadsAlternatives c [Alternative.ofTree t] closed

end

/- The readers accept nothing else. -/

theorem dynamic_of_target?_eq_none (stops : List Char) {c : Cursor} (target : target? c = none) :
    dynamic stops c = ⟨.text "&", c, Nat.le_refl _⟩ := by
  rw [dynamic]
  split
  · rfl
  · rename_i found
    cases target.symm.trans found

theorem readsNode_dynamic (stops : List Char) (c : Cursor) :
    ReadsNode stops '&' c (dynamic stops c).value (dynamic stops c).next := by
  cases target : target? c with
  | none =>
    rw [dynamic_of_target?_eq_none stops target]
    exact .ampersand target
  | some found => exact .dynamic target

mutual

theorem reads_of_nodes {stops b rest : List Char} {p : Parsed Tree rest.length}
    (h : nodes stops ⟨b, rest⟩ = .ok p) : Reads stops ⟨b, rest⟩ p.value p.next := by
  cases rest with
  | nil =>
    rw [nodes] at h
    cases h
    exact .done
  | cons first rest =>
    rw [nodes] at h
    by_cases stop : first ∈ stops
    · simp only [List.contains_iff_mem, stop, if_true, Except.ok.injEq] at h
      rw [← h]
      exact .stop stop
    · simp only [List.contains_iff_mem, stop, if_false] at h
      split at h
      · cases h
      · rename_i n next within head
        split at h
        · cases h
        · rename_i more tail
          cases h
          have shorter : next.rest.length < rest.length + 1 := Nat.lt_succ_of_le within
          exact .cons stop (readsNode_of_node head) (reads_of_nodes tail)
termination_by 6 * rest.length + 1

theorem readsNode_of_node {stops : List Char} {first : Char} {c : Cursor}
    {p : Parsed Node c.rest.length} (h : node stops first c = .ok p) :
    ReadsNode stops first c p.value p.next := by
  unfold node at h
  split at h
  · cases h
    exact .newline
  · exact readsNode_of_dollar h
  · cases h
    exact readsNode_dynamic stops c
  · exact readsNode_of_parens stops h
  · exact readsNode_of_braces h
  · cases h
    exact .close
  · cases h
    exact .bar
  · rename_i h₁ h₂ h₃ h₄ h₅ h₆ h₇
    cases h
    refine .plain ?_
    simp [signs]
    grind
termination_by 6 * c.rest.length + 5

theorem readsNode_of_dollar {stops : List Char} {c : Cursor} {p : Parsed Node c.rest.length}
    (h : dollar stops c = .ok p) : ReadsNode stops '$' c p.value p.next := by
  rw [dollar] at h
  split at h
  · rename_i name equals target
    have first := target?_length_lt target
    have second : (equals.rest.dropWhile Cursor.isSpace).length ≤ equals.rest.length :=
      equals.skipSpaces_length_le
    simp only at h
    split at h
    · cases h
    · rename_i value next within body
      cases h
      exact .assign target (reads_of_nodes body)
  · rename_i target
    split at h
    · rename_i name next named
      cases h
      exact .symbol target named
    · rename_i named
      cases h
      exact .dollar named
termination_by 6 * c.rest.length

theorem readsNode_of_parens (stops : List Char) {c : Cursor} {p : Parsed Node c.rest.length}
    (h : parens c = .ok p) : ReadsNode stops '(' c p.value p.next := by
  rw [parens] at h
  split at h
  · rename_i closed shut
    cases h
    exact .pair shut
  · rename_i opened
    split at h
    · rename_i sign spaced
      split at h
      · rename_i name equals target
        have first := c.skipSpaces_length_le
        have second := Cursor.after?_length spaced
        have third := target?_length_lt target
        have fourth : (equals.rest.dropWhile Cursor.isSpace).length ≤ equals.rest.length :=
          equals.skipSpaces_length_le
        have found : inlineTarget? c = some (name, equals) := by
          rw [inlineTarget?, spaced]
          exact target
        simp only at h
        split at h
        · cases h
        · rename_i value next within body
          split at h
          · cases h
          · rename_i closed close
            cases h
            exact .inlineAssign opened found (reads_of_nodes body) close
      · rename_i target
        have none : inlineTarget? c = none := by
          rw [inlineTarget?, spaced]
          exact target
        exact readsNode_of_choice stops opened none h
    · rename_i spaced
      have none : inlineTarget? c = none := by
        rw [inlineTarget?, spaced]
        rfl
      exact readsNode_of_choice stops opened none h
termination_by 6 * c.rest.length + 4

theorem readsNode_of_choice (stops : List Char) {c : Cursor} {p : Parsed Node c.rest.length}
    (opened : c.after? ')' = none) (target : inlineTarget? c = none) (h : choice c = .ok p) :
    ReadsNode stops '(' c p.value p.next := by
  rw [choice] at h
  split at h
  · cases h
  · rename_i found next within body
    cases h
    exact .choice opened target (readsAlternatives_of_alternatives body)
termination_by 6 * c.rest.length + 3

theorem readsAlternatives_of_alternatives {opening : Nat} {c : Cursor}
    {p : Parsed (List Alternative) c.rest.length} (h : alternatives opening c = .ok p) :
    ReadsAlternatives c p.value p.next := by
  rw [alternatives] at h
  split at h
  · cases h
  · rename_i tree next within head
    simp only at h
    split at h
    · rename_i start bar
      have shorter := Cursor.after?_length bar
      split at h
      · cases h
      · rename_i more tail
        cases h
        exact .more (reads_of_nodes head) bar (readsAlternatives_of_alternatives tail)
    · rename_i bar
      split at h
      · rename_i closed close
        cases h
        exact .last (reads_of_nodes head) bar close
      · cases h
termination_by 6 * c.rest.length + 2

theorem readsNode_of_braces {stops : List Char} {c : Cursor} {p : Parsed Node c.rest.length}
    (h : braces stops c = .ok p) : ReadsNode stops '\x7b' c p.value p.next := by
  rw [braces] at h
  split at h
  · rename_i other
    cases h
    exact .brace other
  · cases h
  · rename_i conditions closed within found
    simp only at h
    split at h
    · rename_i rest
      cases h
      refine .guardAlone found ?_
      simp [rest]
    · rename_i first rest more
      have shorter : rest.length < c.rest.length := by
        have inside := closed.skipSpaces_length_le
        rw [more, List.length_cons] at inside
        omega
      split at h
      · rename_i ends
        cases h
        refine .guardAlone found ?_
        simpa [more] using ends
      · rename_i goesOn
        have goes : first ≠ '\n' ∧ first ∉ stops := by simpa using goesOn
        split at h
        · cases h
        · rename_i body read
          cases h
          exact .guarded found more goes.1 goes.2 (readsNode_of_node read)
termination_by 6 * c.rest.length

end

/- They accept all of it. -/

/-- A reader that comes to a value and to a place. -/
def Gives {α : Type} {bound : Nat} (r : Except ParseError (Parsed α bound)) (value : α)
    (next : Cursor) : Prop :=
  ∃ p, r = .ok p ∧ p.value = value ∧ p.next = next

section

variable {stops : List Char} {c mid next equals closed : Cursor} {name : String} {t : Tree} {n : Node}

theorem nodes_gives_cons {b rest : List Char} {first : Char} (other : first ∉ stops)
    (head : Gives (node stops first ⟨first :: b, rest⟩) n mid)
    (tail : Gives (nodes stops mid) t next) :
    Gives (nodes stops ⟨b, first :: rest⟩) (Tree.cons n t) next := by
  obtain ⟨⟨_, _, before⟩, headRead, rfl, rfl⟩ := head
  obtain ⟨⟨_, _, after⟩, tailRead, rfl, rfl⟩ := tail
  rw [nodes]
  simp only [List.contains_iff_mem, other, if_false, headRead, tailRead]
  exact ⟨_, rfl, rfl, rfl⟩

theorem dollar_gives_assign (target : target? c = some (name, equals))
    (value : Gives (nodes ('\n' :: stops) equals.skipSpaces) t next) :
    Gives (dollar stops c) (.assign name t.trim (signColumn c) false [])
      (afterStatement (signColumn c) next) := by
  obtain ⟨⟨_, _, within⟩, read, rfl, rfl⟩ := value
  rw [dollar]
  split
  · rename_i found
    cases target.symm.trans found
    rw [read]
    exact ⟨_, rfl, rfl, rfl⟩
  · rename_i found
    cases target.symm.trans found

theorem dollar_gives_symbol (target : target? c = none) (named : c.name? = some (name, next)) :
    Gives (dollar stops c) (.symbol name (chain next).value) (chain next).next := by
  rw [dollar]
  split
  · rename_i found
    cases target.symm.trans found
  · split
    · rename_i found
      cases named.symm.trans found
      exact ⟨_, rfl, rfl, rfl⟩
    · rename_i found
      cases named.symm.trans found

theorem dollar_gives_text (named : c.name? = none) : Gives (dollar stops c) (.text "$") c := by
  have target : target? c = none := by
    rw [target?, named]
    rfl
  rw [dollar]
  split
  · rename_i found
    cases target.symm.trans found
  · split
    · rename_i found
      cases named.symm.trans found
    · exact ⟨_, rfl, rfl, rfl⟩

theorem parens_gives_pair (shut : c.after? ')' = some closed) :
    Gives (parens c) (.text "()") closed := by
  rw [parens]
  split
  · rename_i found
    cases shut.symm.trans found
    exact ⟨_, rfl, rfl, rfl⟩
  · rename_i found
    cases shut.symm.trans found

theorem parens_gives_assign (opened : c.after? ')' = none)
    (target : inlineTarget? c = some (name, equals))
    (value : Gives (nodes [')'] equals.skipSpaces) t next) (close : next.after? ')' = some closed) :
    Gives (parens c) (.assign name t.trim c.skipSpaces.column true (chain closed).value)
      (chain closed).next := by
  obtain ⟨⟨_, _, within⟩, read, rfl, rfl⟩ := value
  obtain ⟨sign, spaced, named⟩ := Option.bind_eq_some_iff.mp target
  rw [parens]
  split
  · rename_i found
    cases opened.symm.trans found
  · split
    · rename_i found
      cases spaced.symm.trans found
      split
      · rename_i found
        cases named.symm.trans found
        simp only [read]
        split
        · rename_i found
          cases close.symm.trans found
        · rename_i found
          cases close.symm.trans found
          exact ⟨_, rfl, rfl, rfl⟩
      · rename_i found
        cases named.symm.trans found
    · rename_i found
      cases spaced.symm.trans found

theorem parens_of_inlineTarget?_eq_none (opened : c.after? ')' = none)
    (target : inlineTarget? c = none) : parens c = choice c := by
  rw [inlineTarget?] at target
  rw [parens]
  split
  · rename_i shut
    rw [opened] at shut
    cases shut
  · split
    · rename_i sign spaced
      rw [spaced] at target
      split
      · rename_i found
        exact absurd (target.symm.trans found) (by simp)
      · rfl
    · rfl

theorem parens_gives_choice {found : List Alternative} (opened : c.after? ')' = none)
    (target : inlineTarget? c = none)
    (body : Gives (alternatives (c.position - 1) c) found closed) :
    Gives (parens c) (.choice found (chain closed).value) (chain closed).next := by
  obtain ⟨⟨_, _, within⟩, read, rfl, rfl⟩ := body
  rw [parens_of_inlineTarget?_eq_none opened target, choice, read]
  exact ⟨_, rfl, rfl, rfl⟩

theorem alternatives_gives_more {opening : Nat} {start : Cursor} {found : List Alternative}
    (head : Gives (nodes ['|', ')'] c) t next) (bar : next.after? '|' = some start)
    (tail : Gives (alternatives opening start) found closed) :
    Gives (alternatives opening c) (Alternative.ofTree t :: found) closed := by
  obtain ⟨⟨_, _, before⟩, headRead, rfl, rfl⟩ := head
  obtain ⟨⟨_, _, after⟩, tailRead, rfl, rfl⟩ := tail
  rw [alternatives, headRead]
  simp only
  split
  · rename_i found
    cases bar.symm.trans found
    rw [tailRead]
    exact ⟨_, rfl, rfl, rfl⟩
  · rename_i found
    cases bar.symm.trans found

theorem alternatives_gives_last {opening : Nat} (head : Gives (nodes ['|', ')'] c) t next)
    (bar : next.after? '|' = none) (close : next.after? ')' = some closed) :
    Gives (alternatives opening c) [Alternative.ofTree t] closed := by
  obtain ⟨⟨_, _, before⟩, headRead, rfl, rfl⟩ := head
  rw [alternatives, headRead]
  simp only
  split
  · rename_i found
    cases bar.symm.trans found
  · split
    · rename_i found
      cases close.symm.trans found
      exact ⟨_, rfl, rfl, rfl⟩
    · rename_i found
      cases close.symm.trans found

variable {conditions : Parsed (List Condition) c.rest.length}

theorem braces_gives_alone (h : guard c = .conditions conditions)
    (last : ∀ first ∈ conditions.next.skipSpaces.rest.head?, first = '\n' ∨ first ∈ stops) :
    Gives (braces stops c) (.guarded conditions.value []) conditions.next.skipSpaces := by
  rw [braces, h]
  simp only
  split
  · exact ⟨_, rfl, rfl, rfl⟩
  · rename_i first rest more
    have ends := last first (by rw [more]; rfl)
    rw [if_pos]
    · exact ⟨_, rfl, rfl, rfl⟩
    · simpa using ends

theorem braces_gives_guarded {rest : List Char} {first : Char} (h : guard c = .conditions conditions)
    (more : conditions.next.skipSpaces.rest = first :: rest) (line : first ≠ '\n')
    (inside : first ∉ stops)
    (body : Gives (node stops first ⟨first :: conditions.next.skipSpaces.before, rest⟩) n next) :
    Gives (braces stops c) (.guarded conditions.value [n]) next := by
  obtain ⟨⟨_, _, within⟩, read, rfl, rfl⟩ := body
  rw [braces, h]
  simp only
  split
  · rename_i found
    cases more.symm.trans found
  · rename_i found
    cases more.symm.trans found
    rw [if_neg]
    · simp only [read]
      exact ⟨_, rfl, rfl, rfl⟩
    · simpa using ⟨line, inside⟩

theorem node_gives_plain {first : Char} (other : first ∉ signs) :
    Gives (node stops first c) (plain stops first c).value (plain stops first c).next := by
  simp only [signs, List.mem_cons, not_or] at other
  obtain ⟨h₁, h₂, h₃, h₄, h₅, h₆, h₇, -⟩ := other
  rw [node]
  · exact ⟨_, rfl, rfl, rfl⟩
  all_goals assumption

end

mutual

theorem nodes_of_reads {stops : List Char} {c next : Cursor} {t : Tree} :
    Reads stops c t next → Gives (nodes stops c) t next
  | .done => by
    rw [nodes]
    exact ⟨_, rfl, rfl, rfl⟩
  | .stop h => by
    rw [nodes]
    simp only [List.contains_iff_mem, h, if_true]
    exact ⟨_, rfl, rfl, rfl⟩
  | .cons h head tail => nodes_gives_cons h (node_of_readsNode head) (nodes_of_reads tail)

theorem node_of_readsNode {stops : List Char} {first : Char} {c next : Cursor} {n : Node} :
    ReadsNode stops first c n next → Gives (node stops first c) n next
  | .newline => ⟨_, by rw [node], rfl, rfl⟩
  | .assign target value => by
    rw [node]
    exact dollar_gives_assign target (nodes_of_reads value)
  | .symbol target named => by
    rw [node]
    exact dollar_gives_symbol target named
  | .dollar named => by
    rw [node]
    exact dollar_gives_text named
  | .dynamic _ => ⟨_, by rw [node], rfl, rfl⟩
  | .ampersand target => ⟨_, by rw [node, dynamic_of_target?_eq_none _ target], rfl, rfl⟩
  | .pair h => by
    rw [node]
    exact parens_gives_pair h
  | .inlineAssign opened target value close => by
    rw [node]
    exact parens_gives_assign opened target (nodes_of_reads value) close
  | .choice opened target body => by
    rw [node]
    exact parens_gives_choice opened target (alternatives_of_reads body _)
  | .brace h => ⟨_, by rw [node, braces, h], rfl, rfl⟩
  | .guardAlone h last => by
    rw [node]
    exact braces_gives_alone h last
  | .guarded h more line inside body => by
    rw [node]
    exact braces_gives_guarded h more line inside (node_of_readsNode body)
  | .close => ⟨_, by rw [node], rfl, rfl⟩
  | .bar => ⟨_, by rw [node], rfl, rfl⟩
  | .plain h => node_gives_plain h

theorem alternatives_of_reads {c closed : Cursor} {found : List Alternative} :
    ReadsAlternatives c found closed →
      ∀ opening, Gives (alternatives opening c) found closed
  | .more head bar tail => fun opening =>
    alternatives_gives_more (nodes_of_reads head) bar (alternatives_of_reads tail opening)
  | .last head bar close => fun _ => alternatives_gives_last (nodes_of_reads head) bar close

end

theorem ends_of_reads : ∀ {stops : List Char} {c next : Cursor} {t : Tree},
    Reads stops c t next → ∀ first ∈ next.rest.head?, first ∈ stops
  | _, _, _, _, .done => by simp
  | _, _, _, _, .stop h => by simpa using h
  | _, _, _, _, .cons _ _ tail => ends_of_reads tail

theorem rest_of_reads {c next : Cursor} {t : Tree} (h : Reads [] c t next) : next.rest = [] := by
  have ends := ends_of_reads h
  cases rest : next.rest with
  | nil => rfl
  | cons first _ =>
    rw [rest] at ends
    exact absurd (ends first rfl) List.not_mem_nil

/-- A text is read as a tree exactly if the grammar says so. -/
theorem ofText?_eq_ok_iff (text : String) (t : Tree) :
    Tree.ofText? text = .ok t ↔ ∃ next, Reads [] (Cursor.start text) t next := by
  rw [Tree.ofText?]
  constructor
  · intro h
    split at h
    · rename_i p found
      cases h
      exact ⟨p.next, reads_of_nodes found⟩
    · cases h
  · rintro ⟨next, read⟩
    obtain ⟨p, found, rfl, _⟩ := nodes_of_reads read
    rw [found]

end TextGen.Script
