import TextGen.Unicode.Ranges

/-! Patterns.
A pattern consists of pieces of text, sets of characters and conditions on a place. The functions
that put patterns together keep them small: neighbouring texts become one, alternatives that are
sets become one set, and what all alternatives begin with is taken out of them. -/
namespace TextGen

open Unicode (Ranges)

namespace Pattern

/-- Conditions on a place. `unicode` says that the characters of all scripts make up words, and not
only those of ASCII; `crlf` says that a carriage return ends a line too, and that nothing stands
between it and a line feed. -/
inductive Anchor where
  | textStart
  | textEnd
  | lineStart (crlf : Bool)
  | lineEnd (crlf : Bool)
  | wordEdge (unicode : Bool)
  | noWordEdge (unicode : Bool)
  | wordStart (unicode : Bool)
  | wordEnd (unicode : Bool)
  | noWordBefore (unicode : Bool)
  | noWordAfter (unicode : Bool)
deriving DecidableEq, Repr

end Pattern

/-- Groups are numbered from one, in the order in which they begin. -/
inductive Pattern where
  | empty
  | literal (cs : List Char)
  | one (set : Ranges)
  | anchor (a : Pattern.Anchor)
  | both (first second : Pattern)
  | either (first second : Pattern)
  | repeated (least : Nat) (most : Option Nat) (p : Pattern)
  | group (number : Nat) (p : Pattern)
deriving DecidableEq, Repr

namespace Pattern

/-! ### Lengths of matches -/

/-- The least number of characters of a match. There is none if a part is an empty set. -/
def minLength? : Pattern → Option Nat
  | empty => some 0
  | literal cs => some cs.length
  | one set => if set.isEmpty then none else some 1
  | anchor _ => some 0
  | both p q => do some ((← p.minLength?) + (← q.minLength?))
  | either p q => do some (min (← p.minLength?) (← q.minLength?))
  | repeated least _ p => p.minLength?.map (least * ·)
  | group _ p => p.minLength?

def advances (p : Pattern) : Bool := p.minLength?.any (0 < ·)

def isStill : Pattern → Bool
  | empty => true
  | literal cs => cs.isEmpty
  | one _ => false
  | anchor _ => true
  | both p q => p.isStill && q.isStill
  | either p q => p.isStill && q.isStill
  | repeated _ most p => most.isSome && p.isStill
  | group _ p => p.isStill

def startsAtStart : Pattern → Bool
  | anchor a => a = .textStart
  | both p q => p.startsAtStart || (p.isStill && q.startsAtStart)
  | either p q => p.startsAtStart && q.startsAtStart
  | repeated least _ p => 0 < least && p.startsAtStart
  | group _ p => p.startsAtStart
  | _ => false

def endsAtEnd : Pattern → Bool
  | anchor a => a = .textEnd
  | both p q => q.endsAtEnd || (q.isStill && p.endsAtEnd)
  | either p q => p.endsAtEnd && q.endsAtEnd
  | repeated least _ p => 0 < least && p.endsAtEnd
  | group _ p => p.endsAtEnd
  | _ => false

/-! ### Putting patterns together -/

def ofSet (set : Ranges) : Pattern :=
  match set with
  | #[(first, last)] => if first = last then literal [Char.ofNat first] else one set
  | _ => one set

def parts : Pattern → List Pattern
  | empty => []
  | both p q => p.parts ++ q.parts
  | p => [p]

def joinTexts : List Pattern → List Pattern
  | [] => []
  | literal a :: rest =>
    match joinTexts rest with
    | literal b :: more => literal (a ++ b) :: more
    | more => literal a :: more
  | p :: rest => p :: joinTexts rest

def chain : List Pattern → Pattern
  | [] => empty
  | [p] => p
  | p :: rest => both p (chain rest)

def sequence (ps : List Pattern) : Pattern := chain (joinTexts (ps.flatMap parts))

/-- A repetition of what has no characters makes no difference after the first time. -/
def repetition (least : Nat) (most : Option Nat) (p : Pattern) : Pattern :=
  let (least, most) :=
    if p.isStill then (min least 1, some ((most.map (min 1)).getD 1)) else (least, most)
  match least, most with
  | 0, some 0 => empty
  | 1, some 1 => p
  | _, _ => repeated least most p

def alternatives : Pattern → List Pattern
  | either p q => p.alternatives ++ q.alternatives
  | p => [p]

def char? : Pattern → Option Char
  | literal [c] => some c
  | _ => none

def set? : Pattern → Option Ranges
  | one set => some set
  | _ => none

def isSequence : Pattern → Bool
  | both _ _ => true
  | _ => false

def unionOf? (ps : List Pattern) : Option Ranges :=
  match ps.mapM char? with
  | some cs => some (.ofList (cs.map fun c => (c.toNat, c.toNat)))
  | none => (ps.mapM set?).map fun sets => .ofList (sets.flatMap Array.toList)

/-- Alternatives as they are, unless they make up one set. -/
def choiceOf (ps : List Pattern) : Pattern :=
  match unionOf? ps with
  | some set => ofSet set
  | none =>
    match ps.reverse with
    | [] => one #[]
    | last :: before => before.foldl (fun q p => either p q) last

def sharedStart : List Pattern → List Pattern → List Pattern
  | p :: ps, q :: qs => if p = q then p :: sharedStart ps qs else []
  | _, _ => []

def commonStart : List (List Pattern) → List Pattern
  | [] => []
  | ps :: rest => rest.foldl sharedStart ps

def choice (ps : List Pattern) : Pattern :=
  let ps := ps.flatMap alternatives
  let common := if ps.all isSequence then commonStart (ps.map parts) else []
  if common = [] then choiceOf ps
  else
    let rest (p : Pattern) : Pattern := chain (p.parts.drop common.length)
    sequence (common ++ [choiceOf (ps.flatMap fun p => (rest p).alternatives)])

end Pattern

end TextGen
