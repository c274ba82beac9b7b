import Mathlib
import TextGen.Json.Reader

/-! What the reader makes of the parts of an object.
A member is read from the reading of its key, that of its value and the sign that comes then. -/
namespace TextGen

def Text.Reading.parts {α : Type} {text : List Char} (r : Text.Reading α text) : α × List Char :=
  (r.value, r.rest)

namespace Json

open TextGen.Text (Reading)

variable {depth : Nat} {input start colon behind key rest after : List Char} {v : Value}

theorem text?_quote (rest : List Char) :
    (text? ('"' :: rest)).map Reading.parts = some ([], rest) := by
  rw [text?]
  rfl

/-- A character that is neither a quote, a backslash nor a control character stands for itself. -/
theorem text?_cons {c : Char} (plain : c ≠ '"' ∧ c ≠ '\\' ∧ ¬ c.toNat < 0x20) (rest : List Char) :
    (text? (c :: rest)).map Reading.parts =
      ((text? rest).map Reading.parts).map fun (text, after) => (c :: text, after) := by
  rw [text?]
  · rw [if_neg plain.2.2, Option.map_map, Option.map_map]
    rfl
  · exact plain.1
  · exact plain.2.1

theorem value?_text (read : (text? input).map Reading.parts = some (key, rest)) :
    (value? depth ('"' :: input)).map Reading.parts = some (.text (String.ofList key), rest) := by
  obtain ⟨r, found, parts⟩ := Option.map_eq_some_iff.mp read
  cases parts
  rw [value?, if_neg (by decide)]
  rw [found]
  rfl

theorem value?_null (rest : List Char) :
    (value? depth ('n' :: 'u' :: 'l' :: 'l' :: rest)).map Reading.parts = some (.null, rest) := by
  have shorter : rest.length ≤ rest.length + 1 + 1 + 1 := by omega
  rw [value?, if_neg (by decide)]
  simp [word?, Text.dropPrefix?, Reading.of?, Reading.parts, shorter]

theorem members?_eq {sign : Char} (opened : input.dropWhile isBlank = '"' :: start)
    (named : (text? start).map Reading.parts = some (key, colon))
    (parted : colon.dropWhile isBlank = ':' :: behind)
    (valued : (value? depth behind).map Reading.parts = some (v, rest))
    (followed : rest.dropWhile isBlank = sign :: after) (known : sign = '\x7d' ∨ sign = ',') :
    (members? depth input).map Reading.parts =
      if sign = '\x7d' then some ([(String.ofList key, v)], after)
      else ((members? depth after).map Reading.parts).map fun (members, after) =>
        ((String.ofList key, v) :: members, after) := by
  obtain ⟨⟨_, _, _⟩, readKey, same⟩ := Option.map_eq_some_iff.mp named
  cases same
  obtain ⟨⟨_, _, _⟩, readValue, same⟩ := Option.map_eq_some_iff.mp valued
  cases same
  rw [members?]
  split
  · next here =>
    cases opened.symm.trans here
    rw [readKey]
    dsimp only
    split
    · next here =>
      cases parted.symm.trans here
      rw [readValue]
      dsimp only
      split
      · next here =>
        cases followed.symm.trans here
        rfl
      · next here =>
        cases followed.symm.trans here
        rw [if_neg (by decide), Option.map_map, Option.map_map]
        rfl
      · next closing comma =>
        rcases known with rfl | rfl
        · exact absurd followed (closing _)
        · exact absurd followed (comma _)
    · next other => exact absurd parted (other _)
  · next other => exact absurd opened (other _)

theorem value?_object {members : List (String × Value)}
    (opened : input.dropWhile isBlank = '"' :: start)
    (read : (members? depth input).map Reading.parts = some (members, rest)) :
    (value? (depth + 1) ('\x7b' :: input)).map Reading.parts = some (.object members, rest) := by
  obtain ⟨r, found, parts⟩ := Option.map_eq_some_iff.mp read
  cases parts
  rw [value?, if_neg (by decide)]
  dsimp only
  split
  · next here => cases opened.symm.trans here
  · rw [found]
    rfl

end Json

end TextGen
