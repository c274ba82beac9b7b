import TextGen.Pattern.Basic
import TextGen.Text.Search
import TextGen.Unicode.Property

/-! Patterns and the texts they match.
A pattern leads from a place in a text to the places where a match may end. A text matches if there
is such an end from any of its places. Which of several ends would be preferred plays no part. -/
namespace TextGen.Pattern

open TextGen.Text (dropPrefix?)
open TextGen.Unicode (Ranges)

/-- A place in a text: the characters before it, the nearest one first, and those after it. -/
structure Place where
  before : List Char
  after : List Char
deriving DecidableEq, Repr

def isWordAt (unicode : Bool) (c : Option Char) : Bool :=
  c.any fun c => if unicode then Unicode.isWordChar c else c.isAlphanum || c = '_'

def Anchor.holds (a : Anchor) (p : Place) : Bool :=
  let previous := p.before.head?
  let next := p.after.head?
  match a with
  | textStart => previous.isNone
  | textEnd => next.isNone
  | lineStart crlf =>
    previous.isNone || previous == some '\n'
      || (crlf && previous == some '\r' && next != some '\n')
  | lineEnd crlf =>
    if crlf then
      next.isNone || next == some '\r' || (next == some '\n' && previous != some '\r')
    else next.isNone || next == some '\n'
  | wordEdge unicode => isWordAt unicode previous != isWordAt unicode next
  | noWordEdge unicode => isWordAt unicode previous == isWordAt unicode next
  | wordStart unicode => !isWordAt unicode previous && isWordAt unicode next
  | wordEnd unicode => isWordAt unicode previous && !isWordAt unicode next
  | noWordBefore unicode => !isWordAt unicode previous
  | noWordAfter unicode => !isWordAt unicode next

def distinct (places : List Place) : List Place :=
  places.foldr
    (fun p kept => if kept.any (·.after.length = p.after.length) then kept else p :: kept) []

/-- The places that the given number of steps leads to. Steps that lead nowhere else need not be
repeated. -/
def afterSteps (step : Place → List Place) : Nat → List Place → List Place
  | 0, places => places
  | n + 1, places =>
    let next := distinct (places.flatMap step)
    if next = [] ∨ next = places then next else afterSteps step n next

def withinSteps (step : Place → List Place) : Nat → List Place → List Place
  | 0, places => places
  | n + 1, places =>
    let more := distinct (places ++ places.flatMap step)
    if more.length = places.length then places else withinSteps step n more

/-- The places where a match may end that begins at the given place. Repetitions that do not move
are of no use beyond the least number, so there are no more of them than characters. -/
def ends : Pattern → Place → List Place
  | empty, p => [p]
  | literal cs, p =>
    match dropPrefix? cs p.after with
    | some rest => [⟨cs.reverse ++ p.before, rest⟩]
    | none => []
  | one set, p =>
    match p.after with
    | [] => []
    | c :: rest => if set.contains c.toNat then [⟨c :: p.before, rest⟩] else []
  | anchor a, p => if a.holds p then [p] else []
  | both first second, p => distinct ((first.ends p).flatMap second.ends)
  | either first second, p => distinct (first.ends p ++ second.ends p)
  | repeated least most q, p =>
    let length := p.after.length
    let further := match most with
      | none => length
      | some n => min (n - least) length
    withinSteps q.ends further (afterSteps q.ends least [p])
  | group _ q, p => q.ends p

def matchesFrom (p : Pattern) (before : List Char) : List Char → Bool
  | [] => !(p.ends ⟨before, []⟩).isEmpty
  | c :: rest => !(p.ends ⟨before, c :: rest⟩).isEmpty || p.matchesFrom (c :: before) rest

def isMatch (p : Pattern) (text : String) : Bool := p.matchesFrom [] text.toList

end TextGen.Pattern
