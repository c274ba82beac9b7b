import TextGen.Number.Decimal
import TextGen.Pattern.Reader
import TextGen.Run
import TextGen.Text.Search
import TextGen.Text.Split

/-! Operators of guards.
Both sides are trimmed. Order is that of numbers if both sides are numbers, and that of code points
otherwise; what is not a number stands in no order to any number. -/
namespace TextGen.Script

inductive Operator where
  | equal
  | notEqual
  | greater
  | less
  | atLeast
  | atMost
  | startsWith
  | endsWith
  | isMatch
deriving DecidableEq, Repr

namespace Operator

def text : Operator → String
  | equal => "="
  | notEqual => "!="
  | greater => ">"
  | less => "<"
  | atLeast => ">="
  | atMost => "<="
  | startsWith => "^="
  | endsWith => "$="
  | isMatch => "*="

/-- The spellings, the longer ones first. Equality has two. -/
def spellings : List (String × Operator) :=
  [("==", equal), ("!=", notEqual), (">=", atLeast), ("<=", atMost), ("^=", startsWith),
   ("$=", endsWith), ("*=", isMatch), ("=", equal), (">", greater), ("<", less)]

def ofText? (text : String) : Option Operator := spellings.lookup (Text.trimmed text)

/-- The order of two numbers; none if one of them is not a number. -/
def orderOfNumbers (a b : Float) : Option Ordering :=
  if a < b then some .lt else if b < a then some .gt else if a == b then some .eq else none

def order (left right : String) : Option Ordering :=
  match Number.ofText? left, Number.ofText? right with
  | some a, some b => orderOfNumbers a b
  | _, _ => some (compare left right)

/-- Whether the operator holds between two trimmed texts; none if the right one is to be a pattern
and is not. -/
def compareTrimmed (o : Operator) (left right : String) : Option Bool :=
  match o with
  | equal => some (left = right)
  | notEqual => some (left ≠ right)
  | greater => some ((order left right).any (·.isGT))
  | less => some ((order left right).any (·.isLT))
  | atLeast => some ((order left right).any (·.isGE))
  | atMost => some ((order left right).any (·.isLE))
  | startsWith => some (Text.dropPrefix? right.toList left.toList).isSome
  | endsWith => some (Text.endsWith left.toList right.toList)
  | isMatch => (Pattern.ofText? right).map (·.isMatch left)

/-- Whether the operator holds. Nothing matches what is not a pattern, and a warning says so. -/
def holds (o : Operator) (left right : String) (r : Run) : Bool × Run :=
  let right := Text.trimmed right
  match o.compareTrimmed (Text.trimmed left) right with
  | some b => (b, r)
  | none => (false, r.warn ("invalid pattern in condition '" ++ right ++ "'"))

end Operator

end TextGen.Script
