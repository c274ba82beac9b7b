import Mathlib
import TextGen.Proofs.Script.Scanning

/-! What reading comes to.
A reader that succeeds leaves a later place of the same text. One that fails names a place of the
text where a parenthesis or a brace stands: a parenthesis where the readers of alternatives and of
assignments began, or a brace before conditions. Nothing else makes a text fail. -/
namespace TextGen.Script

def Cursor.text (c : Cursor) : List Char := c.before.reverse ++ c.rest

/-- A place of the same text, no earlier than the first. -/
structure Cursor.Reaches (c next : Cursor) : Prop where
  text : next.text = c.text
  position : c.position ≤ next.position

/-- An opening sign of the text that is not closed. -/
def ParseError.IsAt (e : ParseError) (text : List Char) : Prop :=
  ∃ sign position, e = .unclosed sign position ∧ (sign = '(' ∨ sign = '\x7b') ∧
    text[position]? = some sign

/-- A reader that began at `c` reaches a later place, or fails at an opening sign. -/
def Located {α : Type} {bound : Nat} (c : Cursor) : Except ParseError (Parsed α bound) → Prop
  | .ok p => c.Reaches p.next
  | .error e => e.IsAt c.text

namespace Cursor.Reaches

variable {c mid next : Cursor}

theorem refl (c : Cursor) : c.Reaches c := ⟨rfl, Nat.le_refl _⟩

theorem trans (h : c.Reaches mid) (h' : mid.Reaches next) : c.Reaches next :=
  ⟨h'.text.trans h.text, h.position.trans h'.position⟩

theorem of_append (b taken rest : List Char) :
    (Cursor.mk b (taken ++ rest)).Reaches ⟨taken.reverse ++ b, rest⟩ := by
  constructor
  · simp [Cursor.text]
  · simp [Cursor.position]

theorem of_cons (b rest : List Char) (first : Char) :
    (Cursor.mk b (first :: rest)).Reaches ⟨first :: b, rest⟩ := of_append b [first] rest

theorem of_scan {α : Type} {read : Cursor → Option (α × Cursor)} {v : α} (scan : IsScan read)
    (found : read c = some (v, next)) : c.Reaches next := by
  obtain ⟨b, rest⟩ := c
  obtain ⟨taken, rfl, anywhere⟩ := scan b rest v next found
  have here := anywhere b
  rw [found, Option.some.injEq, Prod.mk.injEq] at here
  rw [here.2]
  exact of_append b taken next.rest

theorem span (test : Char → Bool) (c : Cursor) : c.Reaches (c.span test).2 :=
  of_scan (.span test) rfl

theorem skipSpaces (c : Cursor) : c.Reaches c.skipSpaces := span _ c

theorem after? {sign : Char} (found : c.after? sign = some next) : c.Reaches next :=
  of_scan (.after? sign) (v := ()) (by rw [found]; rfl)

theorem chain (c : Cursor) : c.Reaches (Script.chain c).next := of_scan .chain rfl

theorem guard {p : Parsed (List Condition) c.rest.length} (h : guard c = .conditions p) :
    c.Reaches p.next :=
  of_scan .conditions? (v := some p.value) (by rw [conditions?, h])

theorem skipLineEnd (c : Cursor) : c.Reaches c.skipLineEnd := by
  rw [Cursor.skipLineEnd]
  cases found : c.after? '\n' with
  | none => exact refl c
  | some next => exact after? found

theorem afterStatement (column : Nat) (c : Cursor) : c.Reaches (afterStatement column c) := by
  rw [Script.afterStatement]
  split
  · exact skipLineEnd c
  · exact refl c

theorem dynamic (stops : List Char) (c : Cursor) : c.Reaches (Script.dynamic stops c).next := by
  rw [Script.dynamic]
  split
  · exact refl c
  · rename_i name start target
    exact (of_scan .target? target).trans ((span _ start).trans (afterStatement _ _))

theorem plain (stops : List Char) (first : Char) (c : Cursor) :
    c.Reaches (Script.plain stops first c).next := span _ c

end Cursor.Reaches

theorem Cursor.Reaches.suffix {c next : Cursor} (h : c.Reaches next) : next.rest <:+ c.rest := by
  have whole : c.rest <:+ c.text := ⟨c.before.reverse, rfl⟩
  have behind : next.rest <:+ c.text := ⟨next.before.reverse, h.text⟩
  refine List.suffix_of_suffix_length_le behind whole ?_
  have same := congrArg List.length h.text
  have later : c.before.length ≤ next.before.length := h.position
  simp only [Cursor.text, List.length_append, List.length_reverse] at same
  omega

variable {α : Type} {bound : Nat} {c mid : Cursor}

theorem Located.after {r : Except ParseError (Parsed α bound)} (h : c.Reaches mid)
    (located : Located mid r) : Located c r := by
  cases r with
  | ok p => exact h.trans located
  | error e =>
    rw [Located, h.text] at located
    exact located

theorem isAt_of_last {sign : Char} (opens : sign = '(' ∨ sign = '\x7b') (b rest : List Char) :
    (ParseError.unclosed sign ((Cursor.mk (sign :: b) rest).position - 1)).IsAt
      (Cursor.mk (sign :: b) rest).text := by
  refine ⟨sign, _, rfl, opens, ?_⟩
  simp [Cursor.text, Cursor.position]

mutual

theorem located_nodes (stops b rest : List Char) :
    Located ⟨b, rest⟩ (nodes stops ⟨b, rest⟩) := by
  cases rest with
  | nil =>
    rw [nodes]
    exact .refl _
  | cons first rest =>
    have begun := Cursor.Reaches.of_cons b rest first
    have head := located_node stops first b rest
    rw [nodes]
    simp only
    split
    · exact .refl _
    · split
      · rename_i e failed
        rw [failed] at head
        exact head.after begun
      · rename_i n next within read
        rw [read] at head
        have shorter : next.rest.length < rest.length + 1 := Nat.lt_succ_of_le within
        have tail := located_nodes stops next.before next.rest
        have goesOn := begun.trans head
        split
        · rename_i e failed
          rw [failed] at tail
          exact tail.after goesOn
        · rename_i more read
          rw [read] at tail
          exact goesOn.trans tail
termination_by 6 * rest.length + 1

theorem located_node (stops : List Char) (first : Char) (b rest : List Char) :
    Located ⟨first :: b, rest⟩ (node stops first ⟨first :: b, rest⟩) := by
  unfold node
  split
  · exact .refl _
  · exact located_dollar stops _
  · exact .dynamic stops _
  · exact located_parens b rest
  · exact located_braces stops b rest
  · exact .refl _
  · exact .refl _
  · exact .plain stops first _
termination_by 6 * rest.length + 5

theorem located_dollar (stops : List Char) (c : Cursor) : Located c (dollar stops c) := by
  rw [dollar]
  split
  · rename_i name equals target
    have first := target?_length_lt target
    have second := equals.skipSpaces_length_le
    have begun : c.Reaches equals.skipSpaces :=
      (Cursor.Reaches.of_scan .target? target).trans (.skipSpaces _)
    have inside := located_nodes ('\n' :: stops) equals.skipSpaces.before equals.skipSpaces.rest
    simp only
    split
    · rename_i e failed
      rw [failed] at inside
      exact inside.after begun
    · rename_i value next within read
      rw [read] at inside
      exact begun.trans (inside.trans (.afterStatement _ _))
  · split
    · rename_i name next named
      exact (Cursor.Reaches.of_scan .name? named).trans (.chain next)
    · exact .refl c
termination_by 6 * c.rest.length

theorem located_parens (b rest : List Char) :
    Located ⟨'(' :: b, rest⟩ (parens ⟨'(' :: b, rest⟩) := by
  have chosen := located_choice b rest
  rw [parens]
  split
  · rename_i closed shut
    exact .after? shut
  · split
    · rename_i sign spaced
      split
      · rename_i name equals target
        have first : (Cursor.mk ('(' :: b) rest).skipSpaces.rest.length ≤ rest.length :=
          Cursor.skipSpaces_length_le _
        have second := Cursor.after?_length spaced
        have third := target?_length_lt target
        have fourth := equals.skipSpaces_length_le
        have begun : (Cursor.mk ('(' :: b) rest).Reaches equals.skipSpaces :=
          (Cursor.Reaches.skipSpaces _).trans ((Cursor.Reaches.after? spaced).trans
            ((Cursor.Reaches.of_scan .target? target).trans (.skipSpaces _)))
        have inside := located_nodes [')'] equals.skipSpaces.before equals.skipSpaces.rest
        simp only
        split
        · rename_i e failed
          rw [failed] at inside
          exact inside.after begun
        · rename_i value next within read
          rw [read] at inside
          split
          · exact isAt_of_last (.inl rfl) b rest
          · rename_i closed close
            exact begun.trans (inside.trans ((Cursor.Reaches.after? close).trans (.chain closed)))
      · exact chosen
    · exact chosen
termination_by 6 * rest.length + 4

theorem located_choice (b rest : List Char) :
    Located ⟨'(' :: b, rest⟩ (choice ⟨'(' :: b, rest⟩) := by
  have inside := located_alternatives _ ⟨'(' :: b, rest⟩ (isAt_of_last (.inl rfl) b rest)
  rw [choice]
  split
  · rename_i e failed
    rw [failed] at inside
    exact inside
  · rename_i found next within read
    rw [read] at inside
    exact inside.trans (.chain next)
termination_by 6 * rest.length + 3

theorem located_alternatives (opening : Nat) (c : Cursor)
    (opens : (ParseError.unclosed '(' opening).IsAt c.text) :
    Located c (alternatives opening c) := by
  have head := located_nodes ['|', ')'] c.before c.rest
  rw [alternatives]
  split
  · rename_i e failed
    rw [failed] at head
    exact head
  · rename_i tree next within read
    rw [read] at head
    simp only
    split
    · rename_i start bar
      have shorter := Cursor.after?_length bar
      have goesOn := head.trans (Cursor.Reaches.after? bar)
      have tail := located_alternatives opening start (goesOn.text ▸ opens)
      split
      · rename_i e failed
        rw [failed] at tail
        exact tail.after goesOn
      · rename_i more read
        rw [read] at tail
        exact goesOn.trans tail
    · split
      · rename_i closed close
        exact head.trans (.after? close)
      · exact opens
termination_by 6 * c.rest.length + 2

theorem located_braces (stops b rest : List Char) :
    Located ⟨'\x7b' :: b, rest⟩ (braces stops ⟨'\x7b' :: b, rest⟩) := by
  rw [braces]
  split
  · exact .refl _
  · exact isAt_of_last (.inr rfl) b rest
  · rename_i conditions closed within found
    have guarded : (Cursor.mk ('\x7b' :: b) rest).Reaches closed.skipSpaces :=
      (Cursor.Reaches.guard found).trans (.skipSpaces closed)
    simp only
    split
    · exact guarded
    · rename_i first left more
      have shorter : left.length < rest.length := by
        have inside := closed.skipSpaces_length_le
        rw [more, List.length_cons] at inside
        exact inside.trans within
      have begun : closed.skipSpaces.Reaches ⟨first :: closed.skipSpaces.before, left⟩ := by
        have whole := Cursor.Reaches.of_cons closed.skipSpaces.before left first
        rwa [← more] at whole
      have body := located_node stops first closed.skipSpaces.before left
      split
      · exact guarded
      · split
        · rename_i e failed
          rw [failed] at body
          exact body.after (guarded.trans begun)
        · rename_i n read
          rw [read] at body
          exact guarded.trans (begun.trans body)
termination_by 6 * rest.length

end

/- What is left behind a tree. -/

theorem suffix_of_reads {stops : List Char} {c next : Cursor} {t : Tree}
    (h : Reads stops c t next) : next.rest <:+ c.rest := by
  obtain ⟨p, read, _, rfl⟩ := nodes_of_reads h
  have located := located_nodes stops c.before c.rest
  rw [read] at located
  exact located.suffix

theorem suffix_of_readsNode {stops b rest : List Char} {first : Char} {n : Node} {next : Cursor}
    (h : ReadsNode stops first ⟨first :: b, rest⟩ n next) : next.rest <:+ rest := by
  obtain ⟨p, read, _, rfl⟩ := node_of_readsNode h
  have located := located_node stops first b rest
  rw [read] at located
  exact located.suffix

theorem suffix_of_readsAlternatives : ∀ {closed : Cursor} {found : List Alternative} {c : Cursor},
    ReadsAlternatives c found closed → ')' :: closed.rest <:+ c.rest
  | _, _, _, .more head bar tail =>
    (suffix_of_readsAlternatives tail).trans
      ((Cursor.Reaches.after? bar).suffix.trans (suffix_of_reads head))
  | _, _, _, .last head _ close => Cursor.rest_of_after? close ▸ suffix_of_reads head

/- Errors. -/

theorem isAt_of_ofText? {text : String} {e : ParseError} (h : Tree.ofText? text = .error e) :
    e.IsAt text.toList := by
  have located : Located (Cursor.start text) (nodes [] (Cursor.start text)) :=
    located_nodes [] [] text.toList
  rw [Tree.ofText?] at h
  split at h
  · cases h
  · rename_i failed
    cases h
    rw [failed] at located
    exact located

theorem ParseError.IsAt.position {e : ParseError} {text : List Char} (h : e.IsAt text) :
    e.position < text.length ∧
      (text[e.position]? = some '(' ∧ e.cause = "unclosed '('" ∨
        text[e.position]? = some '\x7b' ∧ e.cause = "unclosed '\x7b'") := by
  obtain ⟨sign, position, rfl, opens, stands⟩ := h
  obtain ⟨within, _⟩ := List.getElem?_eq_some_iff.mp stands
  refine ⟨within, ?_⟩
  rcases opens with rfl | rfl
  · exact .inl ⟨stands, rfl⟩
  · exact .inr ⟨stands, rfl⟩

/-- A text is rejected only at an opening sign that is not closed, and the message names this sign.
So a text without opening parentheses and braces is always understood. -/
theorem rejected_at_opening (text : String) :
    (∀ e, Tree.ofText? text = .error e → e.position < text.length ∧
      (text.toList[e.position]? = some '(' ∧ e.cause = "unclosed '('" ∨
        text.toList[e.position]? = some '\x7b' ∧ e.cause = "unclosed '\x7b'")) ∧
    ('(' ∉ text.toList → '\x7b' ∉ text.toList → ∃ t, Tree.ofText? text = .ok t) := by
  constructor
  · intro e rejected
    rw [← String.length_toList]
    exact (isAt_of_ofText? rejected).position
  · intro parenthesis brace
    cases read : Tree.ofText? text with
    | ok t => exact ⟨t, rfl⟩
    | error e =>
      rcases (isAt_of_ofText? read).position.2 with ⟨stands, _⟩ | ⟨stands, _⟩
      · exact absurd (List.mem_of_getElem? stands) parenthesis
      · exact absurd (List.mem_of_getElem? stands) brace

theorem rejected_at_opening_of_signs :
    (∃ e, Tree.ofText? "x ($a=(b)" = .error e ∧ e.position = 2 ∧ e.position < 9 ∧
      e.cause = "unclosed '('") ∧
    (∃ e, Tree.ofText? "(a|\x7b$b=c)" = .error e ∧ e.position = 3 ∧ e.cause = "unclosed '\x7b'") ∧
    ∃ t, Tree.ofText? "$5 & $a.b) | [2]" = .ok t := by
  have assignment : Tree.ofText? "x ($a=(b)" = .error (.unclosed '(' 2) := by with_unfolding_all rfl
  have condition : Tree.ofText? "(a|\x7b$b=c)" = .error (.unclosed '\x7b' 3) := by
    with_unfolding_all rfl
  have first := (rejected_at_opening _).1 _ assignment
  have second := (rejected_at_opening _).1 _ condition
  have third := (rejected_at_opening "$5 & $a.b) | [2]").2 (by decide) (by decide)
  refine ⟨⟨_, assignment, rfl, first.1, ?_⟩, ⟨_, condition, rfl, ?_⟩, third⟩
  · exact (first.2.resolve_right (by decide)).2
  · exact (second.2.resolve_left (by decide)).2

end TextGen.Script
