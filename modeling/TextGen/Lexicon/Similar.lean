import TextGen.EditDistance
import TextGen.Lexicon.Table

/-! Words at the smallest distance.
The distance is taken between the letters or between the phonemes of two words. Words nearer than a
least distance do not count, nor does the word itself or its regular plurals. -/
namespace TextGen.Lexicon

inductive Similarity where
  | letters
  | sounds
deriving DecidableEq, Repr

def Similarity.units (k : Similarity) (word : String) (e : Entry) : List (List Char) :=
  match k with
  | letters => word.toList.map ([·])
  | sounds => phonemes e.phones.toList

/-- The words found at the smallest distance so far, the last one first; no distance before the
first word. -/
structure Nearest where
  distance : Option Nat := none
  words : List String := []
deriving DecidableEq, Repr

def Nearest.add (n : Nearest) (least : Nat) (word : String) (d : Nat) : Nearest :=
  if least ≤ d ∧ n.distance.all (d < ·) then ⟨some d, [word]⟩
  else if n.distance = some d then { n with words := word :: n.words }
  else n

def nearest (distance : String → Entry → Nat) (least : Nat) (limit : Option Nat) :
    Nearest → Table → Nearest
  | n, [] => n
  | n, (word, e) :: rest =>
    let n := n.add least word (distance word e)
    if limit = some n.words.length then n else nearest distance least limit n rest

namespace Table

def candidates (t : Table) (word : String) (o : SearchOptions) : Table :=
  t.filter fun (w, e) => o.accepts 3 w e && !([word, word ++ "s", word ++ "es"].contains w)

/-- The units of the given word; those of its sounds only if it is in the table. -/
def unitsOf? (t : Table) (word : String) (k : Similarity) : Option (List (List Char)) :=
  match k with
  | .letters => some (k.units word ⟨"", ""⟩)
  | .sounds => (t.find? word).map (k.units word)

def similar (t : Table) (word : String) (o : SearchOptions) (k : Similarity) : List String :=
  let word := Unicode.lowercase word
  match t.unitsOf? word k with
  | none => []
  | some units =>
    let distance (w : String) (e : Entry) : Nat := EditDistance.distance units (k.units w e)
    (nearest distance (max o.minDistance 1) o.limit {} (t.candidates word o)).words.reverse

def similarInBoth (t : Table) (word : String) (o : SearchOptions) : List String :=
  let unlimited := { o with limit := none }
  let byLetters := t.similar word unlimited .letters
  let both := (t.similar word unlimited .sounds).filter byLetters.contains
  match o.limit with
  | none => both
  | some n => both.take n

end Table

def soundsLike (l : Lexicon) (word : String) (o : SearchOptions) (r : Run) :
    Except Error (List String) × Lexicon × Run :=
  if word = "" then (.ok [], l, r)
  else l.ask l.fatal r fun t r =>
    (.ok (if o.matchSpelling then t.similarInBoth word o else t.similar word o .sounds), r)

def spellsLike (l : Lexicon) (word : String) (o : SearchOptions) (r : Run) :
    Except Error (List String) × Lexicon × Run :=
  if word = "" then (.ok [], l, r)
  else l.ask l.fatal r fun t r => (.ok (t.similar word o .letters), r)

end TextGen.Lexicon
