import Mathlib
import TextGen.Proofs.Script.Related

/-! Reading in a longer text.
When a text goes on, the readers that make no trees read from it what they read from the text alone,
unless they come to its end and what follows goes on with what they read. A closing parenthesis goes
on with little, so a text that is put in front of one is read as before. -/
namespace TextGen.Script

/-- The same place in a text that goes on after its end, and starts a line if the other does. -/
structure Longer (w : List Char) (c c' : Cursor) : Prop where
  rest : c'.rest = c.rest ++ w
  column : c.column = 0 ↔ c'.column = 0

/-- The same place in a text before a closing parenthesis. -/
abbrev Wider (w : List Char) : Cursor → Cursor → Prop := Longer (')' :: w)

variable {w : List Char} {c c' next : Cursor}

theorem column_cons_eq_zero_iff (x : Char) (b b' r r' : List Char) :
    (Cursor.mk (x :: b) r).column = 0 ↔ (Cursor.mk (x :: b') r').column = 0 := by
  by_cases line : x = '\n' <;> simp [Cursor.column, line]

theorem column_append_eq_zero_iff (s r r' : List Char) (h : c.column = 0 ↔ c'.column = 0) :
    (Cursor.mk (s ++ c.before) r).column = 0 ↔ (Cursor.mk (s ++ c'.before) r').column = 0 := by
  cases s with
  | nil => exact h
  | cons x s => exact column_cons_eq_zero_iff x _ _ r r'

theorem signColumn_cons_eq_zero_iff (x : Char) (r r' : List Char)
    (h : c.column = 0 ↔ c'.column = 0) :
    signColumn ⟨x :: c.before, r⟩ = 0 ↔ signColumn ⟨x :: c'.before, r'⟩ = 0 := by
  by_cases line : x = '\n'
  · simp [signColumn, Cursor.column, line]
  · simpa [signColumn, Cursor.column, line] using h

namespace Longer

theorem span (h : Longer w c c') {test : Char → Bool}
    (ends : (c.span test).2.rest = [] → ∀ x ∈ w.head?, test x = false) :
    (c'.span test).1 = (c.span test).1 ∧ Longer w (c.span test).2 (c'.span test).2 := by
  have run : c'.rest.takeWhile test = c.rest.takeWhile test ∧
      c'.rest.dropWhile test = c.rest.dropWhile test ++ w := by
    rw [h.rest]
    by_cases left : c.rest.dropWhile test = []
    · have whole := List.takeWhile_append_dropWhile (p := test) (l := c.rest)
      rw [left, List.append_nil] at whole
      have passes : ∀ x ∈ c.rest, test x = true := by
        rw [← whole]
        exact fun x mem => List.mem_takeWhile_imp mem
      rw [left, whole]
      exact Text.takeWhile_append_of_run passes (ends left)
    · exact Text.takeWhile_append_of_stopped left w
  refine ⟨run.1, run.2, ?_⟩
  simp only [Cursor.span, run.1]
  exact column_append_eq_zero_iff _ _ _ h.column

theorem after? (h : Longer w c c') {sign : Char} (ends : c.rest = [] → w.head? ≠ some sign) :
    Option.Rel (Longer w) (c.after? sign) (c'.after? sign) := by
  unfold Cursor.after?
  rw [h.rest]
  cases text : c.rest with
  | nil =>
    cases w with
    | nil => exact .none
    | cons x w =>
      have other : x ≠ sign := fun same => ends text (by rw [same]; rfl)
      simp only [List.nil_append, if_neg other]
      exact .none
  | cons x rest =>
    simp only [List.cons_append]
    split
    · exact .some ⟨rfl, column_append_eq_zero_iff [x] rest _ h.column⟩
    · exact .none

theorem exists_after? (h : Longer w c c') {sign : Char} (found : c.after? sign = some next) :
    ∃ next', c'.after? sign = some next' ∧ Longer w next next' := by
  refine exists_of_rel (h.after? fun ended => ?_) found
  simp [Cursor.after?, ended] at found

theorem after?_eq_none (h : Longer w c c') {sign : Char} (none : c.after? sign = none)
    (ends : c.rest = [] → w.head? ≠ some sign) : c'.after? sign = .none :=
  eq_none_of_rel (h.after? ends) none

theorem afterStatement (h : Longer w c c') {column column' : Nat}
    (ends : c.rest = [] → w.head? ≠ some '\n') (start : column = 0 ↔ column' = 0) :
    Longer w (Script.afterStatement column c) (Script.afterStatement column' c') := by
  have line := h.after? ends
  unfold Script.afterStatement Cursor.skipLineEnd
  by_cases first : column = 0
  · rw [if_pos first, if_pos (start.mp first)]
    generalize c.after? '\n' = a at line ⊢
    generalize c'.after? '\n' = a' at line ⊢
    cases line with
    | none => exact h
    | some related => exact related
  · rw [if_neg first, if_neg fun first' => first (start.mpr first')]
    exact h

theorem step (h : Longer w c c') {first : Char} {rest : List Char} (text : c.rest = first :: rest) :
    c'.rest = first :: (rest ++ w) ∧
      Longer w ⟨first :: c.before, rest⟩ ⟨first :: c'.before, rest ++ w⟩ ∧
      (signColumn ⟨first :: c.before, rest⟩ = 0 ↔
        signColumn ⟨first :: c'.before, rest ++ w⟩ = 0) := by
  refine ⟨?_, ⟨rfl, column_cons_eq_zero_iff first _ _ _ _⟩, ?_⟩
  · rw [h.rest, text]
    rfl
  · exact signColumn_cons_eq_zero_iff first _ _ h.column

end Longer

/-- No reader passes a closing parenthesis. -/
theorem tracks_wider (w : List Char) : Tracks [')'] (Wider w) where
  signs := by decide
  span h _ ends := h.span fun _ x head => ends x (List.mem_singleton.mpr (Option.some.inj head).symm)
  after? h _ other := h.after? fun _ head =>
    other (List.mem_singleton.mpr (Option.some.inj head).symm)

namespace Wider

theorem pair? (h : Wider w c c') (safe : c.rest ≠ ['(']) :
    Option.Rel (Wider w) ((c.after? '(').bind (·.after? ')'))
      ((c'.after? '(').bind (·.after? ')')) := by
  have opened := (tracks_wider w).after? h (show '(' ∉ [')'] by decide)
  cases found : c.after? '(' with
  | none =>
    rw [eq_none_of_rel opened found]
    exact .none
  | some inside =>
    obtain ⟨inside', found', within⟩ := exists_of_rel opened found
    rw [found', Option.bind_some, Option.bind_some]
    refine within.after? fun ended => absurd ?_ safe
    rw [Cursor.rest_of_after? found, ended]

theorem chain (h : Wider w c c') (safe : (chain c).next.rest ≠ ['(']) :
    (Script.chain c').value = (Script.chain c).value ∧
      Wider w (Script.chain c).next (Script.chain c').next := by
  have step : ∀ c c', Wider w c c' ∧ (Script.chain c).next.rest ≠ ['('] →
      AlikeReading (fun c c' => Wider w c c' ∧ (Script.chain c).next.rest ≠ ['('])
        (Script.segment? c) (Script.segment? c') := by
    rintro c c' ⟨wider, safe⟩
    have same := (tracks_wider w).segment? wider fun name next _ named related => by
      refine related.pair? fun ended => safe ?_
      have found : Script.segment? c = some (⟨name, false⟩, next) := by
        simp [Script.segment?, named, Cursor.after?, ended]
      have none : Script.segment? next = none := by
        simp [Script.segment?, Cursor.nameAfter?, Cursor.after?, ended]
      rw [(chain_of_segment? found).2, (chain_of_segment?_eq_none none).2, ended]
    cases found : Script.segment? c with
    | none =>
      rw [eq_none_of_rel same found]
      exact .none
    | some read =>
      obtain ⟨read', found', equal, past⟩ := exists_of_rel same found
      rw [(chain_of_segment? found).2] at safe
      rw [found']
      exact .some ⟨equal, past, safe⟩
  have whole := rel_chain step ⟨h, safe⟩
  exact ⟨whole.1, whole.2.1⟩

theorem guard (h : Wider w c c') (shut : guard c ≠ .unclosed) :
    SameGuard (Wider w) (guard c) (guard c') := by
  have f := tracks_wider w
  have free : ∀ s ∈ Operator.spellings, ')' ∉ s.1.toList := by decide
  refine rel_guard f (P := fun c => Script.guard c ≠ .unclosed) (fun c c' wider shut => ?_)
    (fun c k next more shut found comma unclosed => ?_) h shut
  · refine f.condition? wider (by decide) (by simpa using free) fun n n' related ends => ?_
    obtain ⟨k, found⟩ := ends
    refine related.span fun ended => absurd ?_ shut
    have nothing : ∀ sign, (n.span isConditionChar).2.after? sign = none := by
      intro sign
      simp [Cursor.after?, ended]
    exact guard_eq_unclosed found (nothing _) (nothing _)
  · obtain ⟨le, whole⟩ := guard_of_comma found comma
    apply shut
    rw [whole, unclosed]
    rfl

end Wider

end TextGen.Script
