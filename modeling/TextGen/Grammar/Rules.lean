import Std.Data.HashMap
import TextGen.Grammar.Production

/-! Grammars as ordered maps.
A rule has a name and productions, and both keep the order in which they were first added. An index
holds the place of each rule, by its name. Adding a production whose text is there already changes
its weight. A call that fails gives its error together with the grammar that it leaves. -/
namespace TextGen

namespace Grammar

structure Rule where
  name : String
  productions : List Production
deriving Repr, Inhabited

structure Options where
  startRule : String := "<start>"
  maxIterations : Nat := 1000
deriving DecidableEq, Repr

end Grammar

structure Grammar where
  rules : List Grammar.Rule := []
  index : Std.HashMap String Nat := {}
  options : Grammar.Options := {}
deriving Repr

namespace Grammar

def empty : Grammar := {}

def get? (g : Grammar) (name : String) : Option Rule :=
  g.index[name]?.bind fun place => g.rules[place]?

def hasRule (g : Grammar) (name : String) : Bool := g.index.contains name

/-- The rules behind the one that is removed move up by one place. -/
def remove (g : Grammar) (name : String) : Grammar :=
  match g.index[name]? with
  | some place =>
    { g with
      rules := g.rules.eraseIdx place
      index := (g.index.erase name).map fun _ i => if place < i then i - 1 else i }
  | none => g

def clear (g : Grammar) : Grammar := { g with rules := [], index := {} }

def insertProduction (p : Production) : List Production → List Production
  | [] => [p]
  | q :: rest =>
    if q.text = p.text then { q with weight := p.weight } :: rest
    else q :: insertProduction p rest

def insertProductions (new old : List Production) : List Production :=
  new.foldl (fun productions p => insertProduction p productions) old

/-- The place of the rule of the given name. If there is none, one without productions is
appended. -/
def place (g : Grammar) (name : String) : Nat × Grammar :=
  match g.index[name]? with
  | some place => (place, g)
  | none =>
    (g.rules.length,
      { g with
        rules := g.rules ++ [⟨name, []⟩]
        index := g.index.insert name g.rules.length })

def insert (g : Grammar) (name : String) (new : List Production) : Grammar :=
  let (place, g) := g.place name
  { g with
    rules := g.rules.modify place fun r =>
      { r with productions := insertProductions new r.productions } }

/-- What a call leaves, and its error if it failed. -/
abbrev Outcome := Grammar × Option Error

def Outcome.settled : Outcome → Except Error Grammar
  | (g, none) => .ok g
  | (_, some e) => .error e

instance : Coe Outcome (Except Error Grammar) := ⟨Outcome.settled⟩

/-- What alternatives stand for. The default weight is looked at first, then the alternatives in
order. -/
def productions? (name : String) (texts : List String) (defaultWeight : Float) :
    Except Error (List Production) :=
  if isWeight defaultWeight then texts.mapM (Production.ofText defaultWeight)
  else .error (.invalidWeight name (Number.shortest defaultWeight))

def addAlternatives (g : Grammar) (name : String) (texts : List String) (defaultWeight : Float) :
    Outcome :=
  match productions? name texts defaultWeight with
  | .ok new => (g.insert name new, none)
  | .error e => (g, some e)

def addRule (g : Grammar) (name rule : String) (defaultWeight : Float := 1.0) : Outcome :=
  g.addAlternatives name (alternatives rule) defaultWeight

def ofRules? (rules : List (String × String)) : Except Error Grammar :=
  rules.foldlM (fun g (name, rule) => (g.addRule name rule).settled) empty

end Grammar

end TextGen
