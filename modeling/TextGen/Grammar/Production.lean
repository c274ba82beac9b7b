import TextGen.Number.Decimal
import TextGen.Number.Double
import TextGen.Number.Shortest
import TextGen.Text.Split

/-! Productions and the text they are written in.
The text of a rule holds alternatives between bars. An alternative may give its weight as a number
in brackets; what stands before and after the brackets is the text of the production. -/
namespace TextGen

namespace Grammar

structure Production where
  text : String
  weight : Float
deriving Repr, Inhabited

inductive Error where
  | invalidJson
  | invalidRuleSet (found : String)
  | invalidWeight (production weight : String)
  | noRules
  | ruleNotFound (name : String)
deriving DecidableEq, Repr

def Error.message : Error → String
  | invalidJson =>
    "grammar appears to be invalid JSON, please validate it (e.g. at https://jsonlint.com)"
  | invalidRuleSet found =>
    "grammar must be an object mapping rule names to a string or an array of strings ("
      ++ found ++ ")"
  | invalidWeight production weight =>
    "invalid weight '" ++ weight ++ "' in production '" ++ production ++ "'"
  | noRules => "no grammar rules found"
  | ruleNotFound name => "rule not found: " ++ name

/-- Blanks beside a bar do not belong to an alternative; those at the ends of the rule do. The first
piece has its start trimmed already. -/
def trimInner : List (List Char) → List (List Char)
  | [] => []
  | [last] => [last]
  | piece :: next :: rest => Text.trimEnd piece :: trimInner (Text.trimStart next :: rest)
termination_by pieces => pieces.length

def alternatives (rule : String) : List String :=
  (trimInner (Text.splitOn '|' rule.toList)).map String.ofList

/-- The text of a weight and what follows its closing bracket, from behind the opening one. A line
feed may not follow. -/
def bracketed? (text : List Char) : Option (List Char × List Char) :=
  let isPart (c : Char) : Bool := c.isDigit || c = '.'
  match text.takeWhile isPart, text.dropWhile isPart with
  | raw, ']' :: after => if raw = [] ∨ '\n' ∈ after then none else some (raw, after)
  | _, _ => none

/-- The parts of an alternative with a weight: what stands before the brackets, the weight, and what
stands after them. Of several numbers in brackets the last one counts. Before it there is a text on
one line, which ends at its last character that is not blank. The first argument holds the
characters passed over, the nearest one first. -/
def weighted? (before : List Char) : List Char → Option (List Char × List Char × List Char)
  | [] => none
  | c :: rest =>
    match weighted? (c :: before) rest with
    | some parts => some parts
    | none =>
      let kept := Text.trimEnd before.reverse
      if c = '[' ∧ kept ≠ [] ∧ '\n' ∉ kept then
        (bracketed? rest).map fun (raw, after) => (kept, raw, after)
      else none

def isWeight (w : Float) : Bool := Number.isFinite w && 0 < w

/-- The production that an alternative stands for. Without a weight of its own it has the default
weight. -/
def Production.ofText (defaultWeight : Float) (alternative : String) :
    Except Error Production :=
  match weighted? [] alternative.toList with
  | none => .ok ⟨alternative, defaultWeight⟩
  | some (before, raw, after) =>
    match Number.ofChars? raw with
    | some weight =>
      if isWeight weight then .ok ⟨String.ofList (before ++ after), weight⟩
      else .error (.invalidWeight alternative (String.ofList raw))
    | none => .error (.invalidWeight alternative (String.ofList raw))

end Grammar

end TextGen
