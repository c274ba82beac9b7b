import TextGen.Number.Double
import TextGen.Script.Transforms
import TextGen.Random.Source

/-! Choosing among alternatives.
A policy says how: by weight, in order, in shuffled order, or at random without repeating the last
pick. The policies other than the first keep a state from one choice to the next, in which every
alternative stands as often as its weight says, rounded and at least once. -/
namespace TextGen.Script

inductive Policy where
  | weightedRandom
  | sequence
  | randomSequence
  | noRepeat
deriving DecidableEq, Repr

namespace Policy

def name : Policy → String
  | weightedRandom => "WeightedRandom"
  | sequence => "Sequence"
  | randomSequence => "RandomSequence"
  | noRepeat => "NoRepeat"

def ofName? (name : String) : Option Policy :=
  match name with
  | "seq" => some sequence
  | "rseq" => some randomSequence
  | "norep" => some noRepeat
  | _ => none

def ofChain (c : Chain) : Policy :=
  (c.filterMap fun s => ofName? s.name).getLastD weightedRandom

def isStateful (p : Policy) : Bool := p ≠ weightedRandom

end Policy

/-- How often an alternative stands among the options. -/
def copies (weight : Float) : Nat := max 1 (Number.roundToNat (UInt64.size - 1) weight)

def optionsFrom (index : Nat) : List Float → List Nat
  | [] => []
  | w :: ws => List.replicate (copies w) index ++ optionsFrom (index + 1) ws

/-- The state of a place where choices are made. `served` counts the options of the present round
that have been picked. -/
structure ChoiceState where
  id : Nat
  policy : Policy
  options : List Nat
  weights : List Float
  served : Nat := 0
  last : Option Nat := none
deriving Repr

namespace ChoiceState

def create (id : Nat) (weights : List Float) (policy : Policy) (s : Source) :
    ChoiceState × Source :=
  let options := optionsFrom 0 weights
  let (options, s) := if policy = .randomSequence then s.shuffle options else (options, s)
  ({ id, policy, options, weights }, s)

/-- Whether the state is one for so many alternatives and this policy. -/
def fits (c : ChoiceState) (alternatives : Nat) (policy : Policy) : Bool :=
  c.weights.length = alternatives && c.policy = policy

def advance (c : ChoiceState) : Nat × ChoiceState :=
  ((c.options[c.served % c.options.length]?).getD 0, { c with served := c.served + 1 })

/-- An index by weight; if the weights do not allow it, any index. -/
def byWeight (weights : List Float) (s : Source) : Drawn Source Nat :=
  (s.weightedIndex? weights).andThen fun i s =>
    match i with
    | some i => (.ok i, s)
    | none => .done (s.below weights.length)

def renew (c : ChoiceState) (s : Source) : Drawn (ChoiceState × Source) Unit :=
  if c.served < c.options.length then (.ok (), c, s)
  else
    match s.reshuffle c.last c.options with
    | some (options, s) => (.ok (), { c with options, served := 0 }, s)
    | none => (.error .endless, c, s)

def pick (c : ChoiceState) (s : Source) : Drawn (ChoiceState × Source) Nat :=
  match c.policy with
  | .weightedRandom =>
    let (i, s) := byWeight c.weights s
    (i, c, s)
  | .sequence =>
    let (i, c) := c.advance
    (.ok i, c, s)
  | .randomSequence =>
    (c.renew s).andThen fun _ (c, s) =>
      let (i, c) := c.advance
      (.ok i, c, s)
  | .noRepeat =>
    match s.item? (c.options.filter (some · ≠ c.last)) with
    | (some i, s) => (.ok i, c, s)
    | (none, s) => (.ok (c.options.headD 0), c, s)

/-- The index of the alternative chosen. A single alternative needs no state, and nothing is chosen
from none. -/
def select (c : ChoiceState) (s : Source) : Drawn (ChoiceState × Source) (Option Nat) :=
  match c.weights.length with
  | 0 => (.ok none, c, s)
  | 1 => (.ok (some 0), c, s)
  | _ => (c.pick s).andThen fun i (c, s) => (.ok (some i), { c with last := some i }, s)

end ChoiceState

end TextGen.Script
