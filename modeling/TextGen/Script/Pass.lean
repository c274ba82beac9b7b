import TextGen.Run
import TextGen.Script.Choice
import TextGen.Script.Parser
import TextGen.Script.Unfinished

/-! One pass over a tree.
A pass resolves what it can and writes the rest out as source for the next one. A symbol whose value
is not finished becomes an assignment within parentheses, and is left alone for the rest of the
pass. Places of choice are numbered in the order in which they are visited. -/
namespace TextGen.Script

structure Settings where
  transforms : Transforms := .regular .regular
  silent : Bool := false
  trace : Bool := false

/-- What stays from pass to pass: the states of choices by pass and number, the bindings, and the
running state. -/
structure State where
  choices : List ((Nat × Nat) × ChoiceState) := []
  context : Context := []
  run : Run

def State.reset (s : State) : State := { s with choices := [] }

/-- The state within a pass: its number, the number of choices visited, and the symbols that are
left alone. -/
structure Pass where
  number : Nat
  visited : Nat := 0
  pending : List String := []
  state : State

namespace Pass

def context (p : Pass) : Context := p.state.context

def withRun (p : Pass) (r : Run) : Pass := { p with state := { p.state with run := r } }

def bind (p : Pass) (name : String) (value : Value) : Pass :=
  { p with state := { p.state with context := p.state.context.bind name value } }

def leaveAlone (p : Pass) (name : String) : Pass := { p with pending := name :: p.pending }

def tell (p : Pass) (settings : Settings) (text : String) : Pass :=
  if settings.trace then p.withRun (p.state.run.note .debug text) else p

/-- The state of a choice: the one that was kept if it still fits, otherwise a new one. -/
def choiceState (p : Pass) (key : Nat × Nat) (weights : List Float) (policy : Policy) :
    ChoiceState × Source :=
  let s := p.state.run.source
  match (p.state.choices.lookup key).filter (·.fits weights.length policy) with
  | some c => (c, s)
  | none => ChoiceState.create key.2 weights policy s

def keepChoice (key : Nat × Nat) (c : ChoiceState) :
    List ((Nat × Nat) × ChoiceState) → List ((Nat × Nat) × ChoiceState)
  | [] => [(key, c)]
  | (k, old) :: rest => if k = key then (key, c) :: rest else (k, old) :: keepChoice key c rest

def choose (p : Pass) (id : Nat) (weights : List Float) (policy : Policy) :
    Drawn Pass (Option Nat) :=
  let key := (p.number, id)
  if policy.isStateful then
    let (c, s) := p.choiceState key weights policy
    let (i, c, s) := c.select s
    (i, { p with state := { p.state with
      choices := keepChoice key c p.state.choices
      run := { p.state.run with source := s } } })
  else if weights.isEmpty then (.ok none, p)
  else
    let (i, r) := p.state.run.draw (ChoiceState.byWeight weights)
    (i.map some, p.withRun r)

/-- Applies a chain, and writes out what cannot be applied, with a warning unless it is not
wanted. -/
def transform (p : Pass) (settings : Settings) (v : Value) (c : Chain) : String × Pass :=
  match applySegments settings.transforms p.context c.effective v with
  | (v, []) => (v.display, p)
  | (v, s :: rest) =>
    let text := v.display
    let told :=
      if settings.silent then p
      else p.withRun (p.state.run.warn
        ("unresolved transform '" ++ s.text ++ "' on '" ++ text ++ "'"))
    (text ++ Chain.text (s :: rest), told)

/-- A value that is written out as source for the next pass. -/
def deferred (name value : String) (c : Chain) : String :=
  "($" ++ name ++ "=" ++ value ++ ")" ++ c.text

def unresolved (name : String) (c : Chain) : String := "$" ++ name ++ c.text

/-- The binding of a source to a symbol. -/
def sourceName (name : String) : String := "&" ++ name

def symbol (p : Pass) (settings : Settings) (name : String) (c : Chain) : String × Pass :=
  if p.pending.contains name then (unresolved name c, p)
  else
    match p.context.get? name with
    | none =>
      match p.context.get? (sourceName name) with
      | some source => ("(" ++ source.display ++ ")" ++ c.text, p)
      | none => (unresolved name c, p)
    | some v =>
      match v.text?.filter isUnfinished with
      | some text => (deferred name text c, p.leaveAlone name)
      | none =>
        let (text, p) := p.transform settings v c
        (text, p.tell settings ("$" ++ name ++ " -> '" ++ text ++ "'"))

/-- An assignment whose value has been resolved as far as it can be. At the start of a line it is a
statement and shows nothing. -/
def assign (p : Pass) (settings : Settings) (name value : String) (isStatement : Bool) (c : Chain) :
    String × Pass :=
  if isStatement then
    ("", (p.tell settings ("$" ++ name ++ " = '" ++ value ++ "'")).bind name (.text value))
  else
    let bound := p.bind name (.text value)
    if isUnfinished value then (deferred name value c, bound.leaveAlone name)
    else bound.transform settings (.text value) c

def finishChoice (p : Pass) (settings : Settings) (id : Nat) (text : String) (c : Chain) :
    String × Pass :=
  let p := p.tell settings ("choice " ++ toString p.number ++ "." ++ toString id ++ " ("
    ++ (Policy.ofChain c).name ++ ") -> '" ++ text ++ "'")
  let rest := c.effective
  if rest.isEmpty then (text, p)
  else if isUnfinished text then ("(" ++ text ++ ")" ++ rest.text, p)
  else p.transform settings (.text text) rest

/-- Whether all conditions hold; those after the first that fails are not looked at. A symbol
without a value meets none. -/
def meets (p : Pass) : List Condition → Bool × Pass
  | [] => (true, p)
  | condition :: rest =>
    match p.context.get? condition.name with
    | none => (false, p)
    | some v =>
      let (held, r) := condition.operator.holds v.display condition.value p.state.run
      if held then (p.withRun r).meets rest else (false, p.withRun r)

end Pass

mutual

def visitTree (settings : Settings) : List Node → Pass → Drawn Pass String
  | [], p => (.ok "", p)
  | n :: rest, p =>
    (visitNode settings n p).andThen fun first p =>
      (visitTree settings rest p).andThen fun more p => (.ok (first ++ more), p)

def visitNode (settings : Settings) : Node → Pass → Drawn Pass String
  | .text s, p => (.ok s, p)
  | .newline, p => (.ok " ", p)
  | .symbol name c, p => .done (p.symbol settings name c)
  | .choice alternatives c, p =>
    let id := p.visited + 1
    let weights := alternatives.map Alternative.weight
    (Pass.choose { p with visited := id } id weights (Policy.ofChain c)).andThen fun pick p =>
      match pick with
      | none => (.ok "", p)
      | some i =>
        (visitNth settings alternatives i p).andThen fun text? p =>
          match text? with
          | none => (.ok "", p)
          | some text => .done (p.finishChoice settings id text c)
  | .assign name value column inParens c, p =>
    (visitTree settings value p).andThen fun text p =>
      .done (p.assign settings name (Text.trimmed text) (!inParens && column = 0) c)
  | .dynamic name source, p =>
    (.ok "", (p.tell settings (Pass.sourceName name ++ " = '" ++ source ++ "'")).bind
      (Pass.sourceName name) (.text source))
  | .guarded conditions body, p =>
    match p.meets conditions with
    | (true, p) => visitTree settings body p
    | (false, p) => (.ok "", p)

/-- Resolves the alternative at an index, if there is one. -/
def visitNth (settings : Settings) : List Alternative → Nat → Pass → Drawn Pass (Option String)
  | [], _, p => (.ok none, p)
  | a :: _, 0, p => (visitAlternative settings a p).andThen fun text p => (.ok (some text), p)
  | _ :: rest, i + 1, p => visitNth settings rest i p

def visitAlternative (settings : Settings) : Alternative → Pass → Drawn Pass String
  | .mk tree _, p => visitTree settings tree p

end

/-- The pass with the given number over a tree, and its trimmed text. -/
def runPass (settings : Settings) (number : Nat) (tree : Tree) (s : State) : Drawn State String :=
  let (text, p) := visitTree settings tree { number, state := s }
  (text.map Text.trimmed, p.state)

end TextGen.Script
