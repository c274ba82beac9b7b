/-! Places in a script.
A place is the text read so far and the text that is left. Every operation moves some characters
from the second to the first. -/
namespace TextGen.Script

/-- `before` holds the characters read, the last one first. -/
structure Cursor where
  before : List Char
  rest : List Char
deriving DecidableEq, Repr

namespace Cursor

def start (text : String) : Cursor := ⟨[], text.toList⟩

def position (c : Cursor) : Nat := c.before.length

/-- The number of characters since the last line end. -/
def column (c : Cursor) : Nat := (c.before.takeWhile (· ≠ '\n')).length

def span (test : Char → Bool) (c : Cursor) : List Char × Cursor :=
  let run := c.rest.takeWhile test
  (run, ⟨run.reverse ++ c.before, c.rest.dropWhile test⟩)

def isSpace (c : Char) : Bool := c = ' ' || c = '\t' || c = '\r'

def skipSpaces (c : Cursor) : Cursor := (c.span isSpace).2

def isNameStart (c : Char) : Bool := c.isAlpha || c = '_'

def isNameChar (c : Char) : Bool := c.isAlphanum || c = '_'

/-- A name of ASCII letters, digits and underscores that does not begin with a digit. -/
def name? (c : Cursor) : Option (String × Cursor) :=
  match c.rest with
  | [] => none
  | first :: _ =>
    if isNameStart first then
      let (name, next) := c.span isNameChar
      some (String.ofList name, next)
    else none

def after? (expected : Char) (c : Cursor) : Option Cursor :=
  match c.rest with
  | [] => none
  | first :: rest => if first = expected then some ⟨first :: c.before, rest⟩ else none

/-- A character and the name that follows it. -/
def nameAfter? (sign : Char) (c : Cursor) : Option (String × Cursor) :=
  (c.after? sign).bind name?

def assigned? (c : Cursor) : Option Cursor :=
  (c.after? '=').bind fun next => if next.rest.head? = some '=' then none else some next

def skipLineEnd (c : Cursor) : Cursor := (c.after? '\n').getD c

theorem span_length_le (test : Char → Bool) (c : Cursor) :
    (c.span test).2.rest.length ≤ c.rest.length :=
  (List.dropWhile_sublist test).length_le

theorem skipSpaces_length_le (c : Cursor) : c.skipSpaces.rest.length ≤ c.rest.length :=
  span_length_le _ c

theorem name?_length_lt {c next : Cursor} {name : String} (h : c.name? = some (name, next)) :
    next.rest.length < c.rest.length := by
  unfold name? at h
  split at h
  · cases h
  · rename_i first rest hrest
    split at h
    · rename_i hstart
      have ident : isNameChar first = true := by
        simp only [isNameStart, isNameChar, Char.isAlphanum, Bool.or_eq_true] at hstart ⊢
        rcases hstart with h | h
        · exact Or.inl (Or.inl h)
        · exact Or.inr h
      simp only [span, Option.some.injEq, Prod.mk.injEq] at h
      rw [← h.2]
      simp only [hrest, List.dropWhile_cons, ident, if_true, List.length_cons]
      exact Nat.lt_succ_of_le (List.dropWhile_sublist _).length_le
    · cases h

theorem after?_length {c next : Cursor} {sign : Char} (h : c.after? sign = some next) :
    next.rest.length + 1 = c.rest.length := by
  unfold after? at h
  split at h
  · cases h
  · rename_i first rest hrest
    split at h
    · cases h
      simp [hrest]
    · cases h

theorem nameAfter?_length_lt {c next : Cursor} {sign : Char} {name : String}
    (h : c.nameAfter? sign = some (name, next)) : next.rest.length < c.rest.length := by
  unfold nameAfter? at h
  cases ha : c.after? sign with
  | none => rw [ha] at h; cases h
  | some mid =>
    rw [ha] at h
    have first := after?_length ha
    have second := name?_length_lt h
    omega

theorem assigned?_length_lt {c next : Cursor} (h : c.assigned? = some next) :
    next.rest.length < c.rest.length := by
  unfold assigned? at h
  cases ha : c.after? '=' with
  | none => rw [ha] at h; cases h
  | some mid =>
    rw [ha] at h
    have first := after?_length ha
    simp only [Option.bind_some] at h
    split at h
    · cases h
    · cases h
      omega

theorem skipLineEnd_length_le (c : Cursor) : c.skipLineEnd.rest.length ≤ c.rest.length := by
  unfold skipLineEnd
  cases h : c.after? '\n' with
  | none => exact Nat.le_refl _
  | some next =>
    have := after?_length h
    simp only [Option.getD_some]
    omega

end Cursor

end TextGen.Script
