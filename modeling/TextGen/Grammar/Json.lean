import TextGen.Grammar.Rules
import TextGen.Json.Reader

/-! Rules from JSON.
A rule set is an object that maps the name of each rule to its text or to an array of alternatives.
The members are added one after the other; those before a member that fails stay. Of members with
the same name the last one counts, at the place of the first. -/
namespace TextGen.Grammar

open TextGen.Json (Value)

/-- The texts of an array. The first item of another kind is an error. -/
def texts (name : String) (items : List Value) : Except Error (List String) :=
  items.mapM fun
    | .text s => .ok s
    | other => .error (.invalidRuleSet ("rule '" ++ name ++ "' contains " ++ other.kind))

def addMember (g : Grammar) (name : String) (rule : Value) : Outcome :=
  match rule with
  | .text rule => g.addRule name rule
  | .array items =>
    match texts name items with
    | .ok alternatives => g.addAlternatives name alternatives 1.0
    | .error e => (g, some e)
  | other => (g, some (.invalidRuleSet ("rule '" ++ name ++ "' is " ++ other.kind)))

/-- Adds members up to the first that fails. -/
def addMembers (g : Grammar) : List (String × Value) → Outcome
  | [] => (g, none)
  | (name, rule) :: rest =>
    match g.addMember name rule with
    | (g, none) => g.addMembers rest
    | failed => failed

def addJson (g : Grammar) (text : String) : Outcome :=
  match Json.ofText? text with
  | none => (g, some .invalidJson)
  | some (.object members) => g.addMembers (Json.merged members)
  | some other => (g, some (.invalidRuleSet ("found " ++ other.kind)))

/-- The grammar of a rule set, if all of it can be added. -/
def ofJson? (text : String) : Except Error Grammar := (empty.addJson text).settled

end TextGen.Grammar
