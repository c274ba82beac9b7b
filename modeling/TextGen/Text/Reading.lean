/-! What a reader takes off the front of a text.
The text that is left is shorter than the one that was read from, so a reader that goes on until
nothing is left comes to an end. -/
namespace TextGen.Text

structure Reading (α : Type) (text : List Char) where
  value : α
  rest : List Char
  shorter : rest.length < text.length

namespace Reading

variable {α β : Type} {text longer : List Char}

def map (f : α → β) (r : Reading α text) : Reading β text := ⟨f r.value, r.rest, r.shorter⟩

def within (r : Reading α text) (h : text.length ≤ longer.length) : Reading α longer :=
  ⟨r.value, r.rest, Nat.lt_of_lt_of_le r.shorter h⟩

/-- A reading whose rest is looked at; none if it is not shorter than the text. -/
def of? (text : List Char) (read : α × List Char) : Option (Reading α text) :=
  if h : read.2.length < text.length then some ⟨read.1, read.2, h⟩ else none

end Reading

theorem length_dropWhile_le (test : Char → Bool) (text : List Char) :
    (text.dropWhile test).length ≤ text.length :=
  (List.dropWhile_sublist test).length_le

end TextGen.Text
