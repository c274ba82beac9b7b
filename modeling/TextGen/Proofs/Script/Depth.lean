import Mathlib
import TextGen.Proofs.Script.Outcomes

/-! How deep reading goes.
The readers of trees are written here once more with a bound on the depth of their calls instead of
a reason why they end. A little more than four calls for each character that is left is always
enough, and then they come to what the readers come to. Between two nodes a character is read, and
at most three other calls lie between them: a node opens a parenthesis, which opens its
alternatives, which open a tree. -/
namespace TextGen.Script

/-- What a reader comes to, or nothing if its calls go too deep. -/
abbrev Bounded : Type → Type := ExceptT ParseError Option

def tooDeep {α : Type} : Bounded α := ExceptT.mk none

mutual

def nodesWithin : Nat → List Char → Cursor → Bounded (Tree × Cursor)
  | 0, _, _ => tooDeep
  | depth + 1, stops, c =>
    match c.rest with
    | [] => pure ([], c)
    | first :: rest =>
      if stops.contains first then pure ([], c)
      else do
        let (n, next) ← nodeWithin depth stops first ⟨first :: c.before, rest⟩
        let (more, last) ← nodesWithin depth stops next
        pure (Tree.cons n more, last)

def nodeWithin : Nat → List Char → Char → Cursor → Bounded (Node × Cursor)
  | 0, _, _, _ => tooDeep
  | depth + 1, stops, first, c =>
    match first with
    | '\n' => pure (.newline, c)
    | '$' => dollarWithin depth stops c
    | '&' => pure ((dynamic stops c).value, (dynamic stops c).next)
    | '(' => parensWithin depth c
    | '\x7b' => bracesWithin depth stops c
    | ')' => pure (.text ")", c)
    | '|' => pure (.text "|", c)
    | first => pure ((plain stops first c).value, (plain stops first c).next)

def dollarWithin : Nat → List Char → Cursor → Bounded (Node × Cursor)
  | 0, _, _ => tooDeep
  | depth + 1, stops, c =>
    match target? c with
    | some (name, equals) => do
      let (value, next) ← nodesWithin depth ('\n' :: stops) equals.skipSpaces
      pure (.assign name value.trim (signColumn c) false [], afterStatement (signColumn c) next)
    | none =>
      match c.name? with
      | some (name, next) => pure (.symbol name (chain next).value, (chain next).next)
      | none => pure (.text "$", c)

def parensWithin : Nat → Cursor → Bounded (Node × Cursor)
  | 0, _ => tooDeep
  | depth + 1, c =>
    match c.after? ')' with
    | some closed => pure (.text "()", closed)
    | none =>
      match inlineTarget? c with
      | some (name, equals) => do
        let (value, next) ← nodesWithin depth [')'] equals.skipSpaces
        match next.after? ')' with
        | none => throw (.unclosed '(' (c.position - 1))
        | some closed =>
          pure (.assign name value.trim c.skipSpaces.column true (chain closed).value,
            (chain closed).next)
      | none => do
        let (found, next) ← alternativesWithin depth (c.position - 1) c
        pure (.choice found (chain next).value, (chain next).next)

def alternativesWithin : Nat → Nat → Cursor → Bounded (List Alternative × Cursor)
  | 0, _, _ => tooDeep
  | depth + 1, opening, c => do
    let (tree, next) ← nodesWithin depth ['|', ')'] c
    match next.after? '|' with
    | some start => do
      let (more, last) ← alternativesWithin depth opening start
      pure (Alternative.ofTree tree :: more, last)
    | none =>
      match next.after? ')' with
      | some closed => pure ([Alternative.ofTree tree], closed)
      | none => throw (.unclosed '(' opening)

def bracesWithin : Nat → List Char → Cursor → Bounded (Node × Cursor)
  | 0, _, _ => tooDeep
  | depth + 1, stops, c =>
    match guard c with
    | .other => pure (.text "\x7b", c)
    | .unclosed => throw (.unclosed '\x7b' (c.position - 1))
    | .conditions read =>
      let inside := read.next.skipSpaces
      match inside.rest with
      | [] => pure (.guarded read.value [], inside)
      | first :: rest =>
        if first = '\n' ∨ stops.contains first then pure (.guarded read.value [], inside)
        else do
          let (n, last) ← nodeWithin depth stops first ⟨first :: inside.before, rest⟩
          pure (.guarded read.value [n], last)

end

/-- What a reader comes to, without the bound on what is left. -/
def reached {α : Type} {bound : Nat} (r : Except ParseError (Parsed α bound)) :
    Bounded (α × Cursor) :=
  ExceptT.mk (some (r.map fun p => (p.value, p.next)))

theorem reached_ok_bind {α β : Type} {bound : Nat} (p : Parsed α bound)
    (f : α × Cursor → Bounded (β × Cursor)) : reached (.ok p) >>= f = f (p.value, p.next) := rfl

/- With enough depth the bounded readers do not differ from the others. -/

mutual

theorem nodesWithin_eq : ∀ (depth : Nat) (stops : List Char) (c : Cursor),
    4 * c.rest.length < depth → nodesWithin depth stops c = reached (nodes stops c)
  | 0, _, _, deep => absurd deep (Nat.not_lt_zero _)
  | depth + 1, stops, ⟨b, []⟩, _ => by
    rw [nodesWithin, nodes]
    rfl
  | depth + 1, stops, ⟨b, first :: rest⟩, deep => by
    simp only [List.length_cons] at deep
    have head := nodeWithin_eq depth stops first ⟨first :: b, rest⟩ (by simp only; omega)
    rw [nodesWithin, nodes]
    simp only [head]
    split
    · rfl
    · split
      · rename_i e failed
        simp only [failed]
        rfl
      · rename_i n next within read
        have shorter : next.rest.length ≤ rest.length := within
        have tail := nodesWithin_eq depth stops next (by omega)
        simp only [read, reached_ok_bind, tail]
        split
        · rename_i e failed
          simp only [failed]
          rfl
        · rename_i more read
          simp only [read]
          rfl

theorem nodeWithin_eq : ∀ (depth : Nat) (stops : List Char) (first : Char) (c : Cursor),
    4 * c.rest.length + 3 < depth → nodeWithin depth stops first c = reached (node stops first c)
  | 0, _, _, _, deep => absurd deep (Nat.not_lt_zero _)
  | depth + 1, stops, first, c, deep => by
    have dollar := dollarWithin_eq depth stops c (by omega)
    have parens := parensWithin_eq depth c (by omega)
    have braces := bracesWithin_eq depth stops c (by omega)
    unfold nodeWithin
    split
    · rw [node]
      rfl
    · rw [node]
      exact dollar
    · rw [node]
      rfl
    · rw [node]
      exact parens
    · rw [node]
      exact braces
    · rw [node]
      rfl
    · rw [node]
      rfl
    · rw [node]
      · rfl
      all_goals assumption

theorem dollarWithin_eq : ∀ (depth : Nat) (stops : List Char) (c : Cursor),
    4 * c.rest.length < depth → dollarWithin depth stops c = reached (dollar stops c)
  | 0, _, _, deep => absurd deep (Nat.not_lt_zero _)
  | depth + 1, stops, c, deep => by
    rw [dollar]
    split
    · rename_i name equals target
      have first := target?_length_lt target
      have second := equals.skipSpaces_length_le
      have inside := nodesWithin_eq depth ('\n' :: stops) equals.skipSpaces (by omega)
      simp only
      split
      · rename_i e failed
        simp only [dollarWithin, target, inside, failed]
        rfl
      · rename_i value next within read
        simp only [dollarWithin, target, inside, read]
        rfl
    · rename_i target
      split
      · rename_i name next named
        simp only [dollarWithin, target, named]
        rfl
      · rename_i named
        simp only [dollarWithin, target, named]
        rfl

theorem parensWithin_eq : ∀ (depth : Nat) (c : Cursor),
    4 * c.rest.length + 2 < depth → parensWithin depth c = reached (parens c)
  | 0, _, deep => absurd deep (Nat.not_lt_zero _)
  | depth + 1, c, deep => by
    have chosen : c.after? ')' = none → inlineTarget? c = none →
        parensWithin (depth + 1) c = reached (choice c) := by
      intro opened target
      have inside := alternativesWithin_eq depth (c.position - 1) c (by omega)
      rw [choice]
      split
      · rename_i e failed
        simp only [parensWithin, opened, target, inside, failed]
        rfl
      · rename_i found next within read
        simp only [parensWithin, opened, target, inside, read]
        rfl
    rw [parens]
    split
    · rename_i closed shut
      simp only [parensWithin, shut]
      rfl
    · rename_i opened
      split
      · rename_i sign spaced
        split
        · rename_i name equals named
          have first := c.skipSpaces_length_le
          have second := Cursor.after?_length spaced
          have third := target?_length_lt named
          have fourth := equals.skipSpaces_length_le
          have target : inlineTarget? c = some (name, equals) := by
            rw [inlineTarget?, spaced]
            exact named
          have inside := nodesWithin_eq depth [')'] equals.skipSpaces (by omega)
          simp only
          split
          · rename_i e failed
            simp only [parensWithin, opened, target, inside, failed]
            rfl
          · rename_i value next within read
            split
            · rename_i close
              simp only [parensWithin, opened, target, inside, read, reached_ok_bind, close]
              rfl
            · rename_i closed close
              simp only [parensWithin, opened, target, inside, read, reached_ok_bind, close]
              rfl
        · rename_i named
          refine chosen opened ?_
          rw [inlineTarget?, spaced]
          exact named
      · rename_i spaced
        refine chosen opened ?_
        rw [inlineTarget?, spaced]
        rfl

theorem alternativesWithin_eq : ∀ (depth opening : Nat) (c : Cursor),
    4 * c.rest.length + 1 < depth →
      alternativesWithin depth opening c = reached (alternatives opening c)
  | 0, _, _, deep => absurd deep (Nat.not_lt_zero _)
  | depth + 1, opening, c, deep => by
    have head := nodesWithin_eq depth ['|', ')'] c (by omega)
    rw [alternatives]
    split
    · rename_i e failed
      simp only [alternativesWithin, head, failed]
      rfl
    · rename_i tree next within read
      simp only
      split
      · rename_i start bar
        have shorter := Cursor.after?_length bar
        have tail := alternativesWithin_eq depth opening start (by omega)
        split
        · rename_i e failed
          simp only [alternativesWithin, head, read, reached_ok_bind, bar, tail, failed]
          rfl
        · rename_i more readMore
          simp only [alternativesWithin, head, read, reached_ok_bind, bar, tail, readMore]
          rfl
      · rename_i bar
        split
        · rename_i closed close
          simp only [alternativesWithin, head, read, reached_ok_bind, bar, close]
          rfl
        · rename_i close
          simp only [alternativesWithin, head, read, reached_ok_bind, bar, close]
          rfl

theorem bracesWithin_eq : ∀ (depth : Nat) (stops : List Char) (c : Cursor),
    4 * c.rest.length < depth → bracesWithin depth stops c = reached (braces stops c)
  | 0, _, _, deep => absurd deep (Nat.not_lt_zero _)
  | depth + 1, stops, c, deep => by
    rw [braces]
    split
    · rename_i other
      simp only [bracesWithin, other]
      rfl
    · rename_i unclosed
      simp only [bracesWithin, unclosed]
      rfl
    · rename_i conditions closed within found
      simp only
      split
      · rename_i ends
        simp only [bracesWithin, found, ends]
        rfl
      · rename_i first rest more
        have shorter : rest.length < c.rest.length := by
          have inside := closed.skipSpaces_length_le
          rw [more, List.length_cons] at inside
          omega
        have body := nodeWithin_eq depth stops first ⟨first :: closed.skipSpaces.before, rest⟩
          (by simp only; omega)
        split
        · rename_i alone
          simp only [bracesWithin, found, more, if_pos alone]
          rfl
        · rename_i goesOn
          split
          · rename_i e failed
            simp only [bracesWithin, found, more, if_neg goesOn, body, failed]
            rfl
          · rename_i n read
            simp only [bracesWithin, found, more, if_neg goesOn, body, read]
            rfl

end

/-- A node is read, or fails to be, within a depth of four times the characters that are left, its
own first one included. If it is read, the place after it is a later one of the same text. So a tree
is read, or fails to be, within this depth and one more. -/
theorem reading_ends (stops : List Char) :
    (∀ (first : Char) (b rest : List Char) (depth : Nat), 4 * (first :: rest).length ≤ depth →
      nodeWithin depth stops first ⟨first :: b, rest⟩ =
        reached (node stops first ⟨first :: b, rest⟩)) ∧
    (∀ (first : Char) (b rest : List Char) (p : Parsed Node rest.length),
      node stops first ⟨first :: b, rest⟩ = .ok p →
        b.length < p.next.position ∧ p.next.position ≤ b.length + (first :: rest).length ∧
          p.next.text = b.reverse ++ first :: rest) ∧
    ∀ (c : Cursor) (depth : Nat), 4 * c.rest.length < depth →
      nodesWithin depth stops c = reached (nodes stops c) := by
  refine ⟨fun first b rest depth deep => ?_, fun first b rest p read => ?_,
    fun c depth => nodesWithin_eq depth stops c⟩
  · exact nodeWithin_eq depth stops first _ (by simp only [List.length_cons] at deep ⊢; omega)
  · have later := located_node stops first b rest
    rw [read] at later
    have whole : p.next.text = b.reverse ++ first :: rest :=
      later.text.trans (Cursor.Reaches.of_cons b rest first).text
    have length := congrArg List.length whole
    have beyond : b.length + 1 ≤ p.next.position := later.position
    simp only [Cursor.text, List.length_append, List.length_reverse] at length
    exact ⟨beyond, by rw [Cursor.position]; omega, whole⟩

theorem reading_ends_after_second_look :
    (∃ p, node [] '(' ⟨['('], "$a \x7b)&c".toList⟩ = .ok p ∧ 0 < p.next.position ∧
      p.next.position ≤ 8) ∧
    nodeWithin 32 [] '(' ⟨['('], "$a \x7b)&c".toList⟩ =
      reached (node [] '(' ⟨['('], "$a \x7b)&c".toList⟩) ∧
    nodesWithin 33 [] (Cursor.start "($a \x7b)&c") =
      reached (nodes [] (Cursor.start "($a \x7b)&c")) := by
  have accepted : (node [] '(' ⟨['('], "$a \x7b)&c".toList⟩).toOption.isSome := by
    with_unfolding_all rfl
  obtain ⟨whole, later, trees⟩ := reading_ends []
  refine ⟨?_, whole '(' [] _ 32 (by decide), trees _ 33 (by decide)⟩
  cases read : node [] '(' ⟨['('], "$a \x7b)&c".toList⟩ with
  | ok p =>
    have place := later '(' [] _ p read
    exact ⟨p, rfl, place.1, place.2.1⟩
  | error e =>
    rw [read] at accepted
    cases accepted

end TextGen.Script
