import TextGen.Pattern.Basic
import TextGen.Unicode.Utf8
import Std.Data.HashMap

/-! The size of a pattern.
A pattern is as large as the two automata that match it byte by byte, one forward and one backward.
Each state takes a fixed number of bytes, and more for each of its transitions. Repetitions are
written out. Sets share the states that lead to the same ends, as far as a table of limited size
remembers them. -/
namespace TextGen.Pattern

open TextGen.Unicode (Ranges)

/-- An automaton in the making: the number of its states, and the bytes that they take beside the
fixed ones. -/
structure Automaton where
  states : Nat := 0
  extra : Nat := 0
deriving DecidableEq, Repr

namespace Automaton

def add (m : Automaton) (states extra : Nat) : Automaton := ⟨m.states + states, m.extra + extra⟩

def bytes (m : Automaton) : Nat := 32 * m.states + m.extra

def limit : Nat := 10 * 1024 * 1024

def isTooLarge (m : Automaton) : Bool := limit < m.bytes

def link (isOpen : Bool) : Nat := if isOpen then 4 else 0

/-! ### Tables of states -/

/-- States by what they do, as far as they are remembered: a state takes the place of another that
falls into the same slot. -/
structure Memory where
  slots : Nat
  kept : Std.HashMap Nat (List Nat × Nat) := {}

def Memory.slot (memory : Memory) (key : List Nat) : Nat :=
  let mix (h : UInt64) (n : Nat) : UInt64 := (h ^^^ UInt64.ofNat n) * 1099511628211
  (key.foldl mix 14695981039346656037).toNat % memory.slots

/-- The number of the state with the given key, which is a new one with that many further bytes if
no such state is remembered. -/
def intern (key : List Nat) (extra : Nat) (memory : Memory) (m : Automaton) :
    Nat × Memory × Automaton :=
  let slot := memory.slot key
  match memory.kept[slot]? with
  | some (known, state) =>
    if known = key then (state, memory, m)
    else (m.states, { memory with kept := memory.kept.insert slot (key, m.states) }, m.add 1 extra)
  | none =>
    (m.states, { memory with kept := memory.kept.insert slot (key, m.states) }, m.add 1 extra)

/-! ### Sets, forward

The sequences of bytes come in ascending order. What they begin with is shared as long as the next
one begins with it too; the states behind it are made when it does not. -/

/-- A state that is not yet made: the bytes and targets of its transitions, and the bytes of the
last one, whose target is not yet known. -/
structure Unmade where
  transitions : List (List Nat) := []
  last : Option (Nat × Nat) := none

def Unmade.leadTo (u : Unmade) (target : Nat) : Unmade :=
  match u.last with
  | some (lo, hi) => ⟨u.transitions ++ [[lo, hi, target]], none⟩
  | none => u

def makeState (u : Unmade) (memory : Memory) (m : Automaton) : Nat × Memory × Automaton :=
  intern u.transitions.flatten (8 * u.transitions.length) memory m

/-- Makes the states that lie deeper than the given depth. The deepest of the unmade states comes
first, and its last transition leads to `target`. -/
def makeDeeper (depth target : Nat) (memory : Memory) (m : Automaton) :
    List Unmade → List Unmade × Memory × Automaton
  | [] => ([], memory, m)
  | u :: above =>
    let u := u.leadTo target
    if depth < above.length then
      let (state, memory, m) := makeState u memory m
      makeDeeper depth state memory m above
    else (u :: above, memory, m)

def openStates (above : List Unmade) : List (Nat × Nat) → List Unmade
  | [] => above
  | bytes :: rest => openStates ({ last := some bytes } :: above) rest

def addSequence (target : Nat) (s : List Unmade × Memory × Automaton) (bytes : List (Nat × Nat)) :
    List Unmade × Memory × Automaton :=
  let (unmade, memory, m) := s
  let lasts := unmade.reverse.map (·.last)
  let shared := ((bytes.zip lasts).takeWhile fun (b, last) => last = some b).length
  match makeDeeper shared target memory m unmade, bytes.drop shared with
  | (u :: above, memory, m), b :: rest =>
    (openStates ({ u with last := some b } :: above) rest, memory, m)
  | s, _ => s

def addSetForward (set : Ranges) (m : Automaton) : Automaton :=
  let target := m.states
  let sequences := set.toList.flatMap fun (lo, hi) => Unicode.Utf8.sequences lo hi
  let start : List Unmade × Memory × Automaton := ([{}], { slots := 10000 }, m.add 1 0)
  let (unmade, memory, m) := sequences.foldl (addSequence target) start
  match makeDeeper 0 target memory m unmade with
  | (root :: _, memory, m) => (makeState root memory m).2.2
  | ([], _, m) => m

/-! ### Sets, backward -/

/-- Adds the states of a sequence, whose last byte is read first. Each state leads to the one for
the byte before. -/
def addBackward (memory : Memory) (m : Automaton) (target : Nat) :
    List (Nat × Nat) → Memory × Automaton
  | [] => (memory, m.add 0 (link true))
  | (lo, hi) :: rest =>
    let (state, memory, m) := intern [target, lo, hi] 0 memory m
    addBackward memory m state rest

def addSetBackward (set : Ranges) (m : Automaton) : Automaton :=
  let target := m.states + 1
  let sequences := set.toList.flatMap fun (lo, hi) => Unicode.Utf8.sequences lo hi
  (sequences.foldl (fun (memory, m) bytes => addBackward memory m target bytes)
    (({ slots := 1000 } : Memory), m.add 2 0)).2

def isAscii (set : Ranges) : Bool := set.back?.all fun (_, last) => last < 0x80

/-- Adds the states of a set. ASCII characters are single bytes and need no more than one state and
its end. -/
def addSet (backward : Bool) (set : Ranges) (m : Automaton) : Automaton :=
  if isAscii set then m.add 2 (8 * set.size)
  else if backward then addSetBackward set m
  else addSetForward set m

/-! ### Texts as alternatives

Texts share the states of what they begin with. A text that ends where others go on divides those
before it from those after it, so that the order of preference is kept. -/

def divide : List (List Nat) → List (List (List Nat))
  | [] => [[]]
  | word :: rest =>
    match divide rest with
    | [] => [[word]]
    | part :: parts => if word = [] then [] :: part :: parts else (word :: part) :: parts

def divided (words : List (List Nat)) : List (List (List Nat)) :=
  let rest := words.dropWhile (· = [])
  if rest.length < words.length then [] :: divide rest else divide rest

def branches (words : List (List Nat)) : List (List (List Nat)) :=
  (words.filterMap List.head?).eraseDups.map fun byte =>
    words.filterMap fun word => if word.head? = some byte then some word.tail else none

def addWords : Nat → Automaton → List (List Nat) → Automaton
  | 0, m, _ => m
  | length + 1, m, words =>
    let parts := (divided words).map branches
    let inner := parts.flatten.filter fun rest => rest.any (· ≠ [])
    let m := inner.foldl (addWords length) m
    let filled := parts.filter (· ≠ [])
    let m := filled.foldl
      (fun m part => m.add 1 (if part.length = 1 then 0 else 8 * part.length)) m
    m.add 1 (4 * (filled.length + (parts.length - 1)))

def words? : Pattern → Option (List (List Nat))
  | literal cs => some [cs.flatMap fun c => Unicode.Utf8.encode c.toNat]
  | either p q => do some ((← words? p) ++ (← words? q))
  | _ => none

/-! ### Patterns -/

def isOpen (backward : Bool) : Pattern → Bool
  | both p q => if backward then isOpen backward p else isOpen backward q
  | repeated least most p =>
    match least, most with
    | 0, none => p.advances
    | _, none => true
    | n, some k => n = k && n ≠ 0 && isOpen backward p
  | group _ p => backward && isOpen backward p
  | _ => false

def times (step : Automaton → Automaton) : Nat → Automaton → Automaton
  | 0, m => m
  | n + 1, m => if m.isTooLarge then m else times step n (step m)

/-- Where a pattern stands: by itself, or as the first, second or a later one of alternatives. -/
inductive Standing where
  | alone
  | first
  | second
  | later

def Standing.head : Standing → Standing
  | alone => first
  | s => s

def Standing.tail : Standing → Standing
  | alone | first => second
  | _ => later

/-- Leads to an alternative and from it to the common end. The states for this come behind the
second alternative. -/
def join (backward : Bool) (p : Pattern) (m : Automaton) : Standing → Automaton
  | .alone => m
  | .second => m.add 2 (4 + link (isOpen backward p))
  | _ => m.add 0 (4 + link (isOpen backward p))

def exactly (step : Automaton → Automaton) (isOpen : Bool) (n : Nat) (m : Automaton) : Automaton :=
  if n = 0 then m.add 1 0 else times (fun m => (step m).add 0 (link isOpen)) (n - 1) (step m)

def repeatStates (step : Automaton → Automaton) (advances isOpen : Bool) (least : Nat)
    (most : Option Nat) (m : Automaton) : Automaton :=
  match least, most with
  | 0, some 1 => (step (m.add 1 0)).add 1 (8 + link isOpen)
  | 0, none =>
    if advances then (step (m.add 1 0)).add 0 (4 + link isOpen)
    else (step m).add 3 (16 + link isOpen)
  | 1, none => (step m).add 1 (4 + link isOpen)
  | n, none => (step (exactly step isOpen (n - 1) m)).add 1 (4 + 2 * link isOpen)
  | n, some k =>
    let m := exactly step isOpen n m
    if k ≤ n then m
    else
      let m := m.add 1 (link (n ≠ 0 && isOpen))
      times (fun m => (step (m.add 1 0)).add 0 (8 + link isOpen)) (k - n) m

def addPattern (backward : Bool) : Standing → Pattern → Automaton → Automaton
  | standing, either p q, m =>
    match standing, words? (either p q) with
    | .alone, some words => addWords ((words.map List.length).foldl max 0) (m.add 1 0)
        (if backward then words.map List.reverse else words)
    | _, _ => addPattern backward standing.tail q (addPattern backward standing.head p m)
  | standing, empty, m => join backward empty (m.add 1 0) standing
  | standing, literal cs, m =>
    join backward (literal cs) (m.add ((cs.map Char.utf8Size).foldl (· + ·) 0) 0) standing
  | standing, one set, m => join backward (one set) (addSet backward set m) standing
  | standing, anchor a, m => join backward (anchor a) (m.add 1 0) standing
  | standing, both p q, m =>
    let (first, second) :=
      if backward then (addPattern backward .alone q, addPattern backward .alone p)
      else (addPattern backward .alone p, addPattern backward .alone q)
    let m := (second (first m)).add 0 (link (isOpen backward (if backward then q else p)))
    join backward (both p q) m standing
  | standing, repeated least most p, m =>
    let m := repeatStates (addPattern backward .alone p) p.advances (isOpen backward p) least
        most m
    join backward (repeated least most p) m standing
  | standing, group number p, m =>
    let inner := addPattern backward .alone p
    let m := if backward then inner m else (inner (m.add 1 0)).add 1 (link (isOpen backward p))
    join backward (group number p) m standing

/-- The whole automaton of a direction: what passes over the text before a match, the pattern, and
the end of the match. Forward the place of the match is recorded too. -/
def ofPattern (backward : Bool) (p : Pattern) : Automaton :=
  let isFixed := if backward then p.endsAtEnd else p.startsAtStart
  let m : Automaton := if isFixed then ⟨1, 0⟩ else ⟨3, 16⟩
  let m := if backward then m else m.add 1 0
  let m := addPattern backward .alone p m
  if backward then m.add 1 (link (isOpen backward p)) else m.add 2 (link (isOpen backward p))

end Automaton

def isSmall (p : Pattern) : Bool :=
  !(Automaton.ofPattern false p).isTooLarge && !(Automaton.ofPattern true p).isTooLarge

end TextGen.Pattern
