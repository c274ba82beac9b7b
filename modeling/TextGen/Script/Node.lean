import TextGen.Script.Operator

/-! Syntax trees of scripts.
A tree is a sequence of nodes. A line end is a node of its own, because statements end with it. -/
namespace TextGen.Script

/-- A step of a chain of transforms; `call` says that it is written with parentheses. -/
structure Segment where
  name : String
  call : Bool
deriving DecidableEq, Repr

def Segment.text (s : Segment) : String := "." ++ s.name ++ if s.call then "()" else ""

/-- Transforms that are applied one after the other. -/
abbrev Chain := List Segment

def Chain.text (c : Chain) : String := String.join (c.map Segment.text)

def Chain.has (c : Chain) (name : String) : Bool := c.any (·.name = name)

structure Condition where
  name : String
  operator : Operator
  value : String
deriving DecidableEq, Repr

mutual

inductive Node where
  | text (s : String)
  | newline
  | symbol (name : String) (chain : Chain)
  | choice (alternatives : List Alternative) (chain : Chain)
  | assign (name : String) (value : List Node) (column : Nat) (inParens : Bool) (chain : Chain)
  | dynamic (name : String) (source : String)
  | guarded (conditions : List Condition) (body : List Node)

/-- One of several trees to choose from, with its weight if it has one of its own. -/
inductive Alternative where
  | mk (tree : List Node) (weight? : Option Float)

end

instance : Inhabited Node := ⟨.newline⟩

namespace Alternative

def tree : Alternative → List Node
  | mk tree _ => tree

def weight? : Alternative → Option Float
  | mk _ weight? => weight?

/-- Alternatives without a weight of their own weigh 1. -/
def weight (a : Alternative) : Float := a.weight?.getD 1.0

end Alternative

abbrev Tree := List Node

namespace Tree

/-- Puts a node in front of a tree. Neighbouring texts become one. -/
def cons (node : Node) (tree : Tree) : Tree :=
  match node, tree with
  | .text s, .text t :: rest => .text (s ++ t) :: rest
  | node, tree => node :: tree

def mapLast (f : Node → Node) : Tree → Tree
  | [] => []
  | [last] => [f last]
  | node :: rest => node :: mapLast f rest

def trimNodeStart : Node → Node
  | .text s => .text (String.ofList (Text.trimStart s.toList))
  | node => node

def trimNodeEnd : Node → Node
  | .text s => .text (String.ofList (Text.trimEnd s.toList))
  | node => node

def isBlankText : Node → Bool
  | .text s => s = ""
  | _ => false

/-- The tree without blanks at its ends and without empty texts. -/
def trim (tree : Tree) : Tree :=
  let start := match tree with
    | [] => []
    | first :: rest => trimNodeStart first :: rest
  (mapLast trimNodeEnd start).filter (!isBlankText ·)

end Tree

/-- The last characters of a text up to the bracket that opens them, and what stands before the
bracket. -/
def lastBracketed? (text : List Char) : Option (List Char × List Char) :=
  match (Text.trimEnd text).reverse with
  | ']' :: rest =>
    match rest.dropWhile (· ≠ '[') with
    | _ :: before => some (before.reverse, (rest.takeWhile (· ≠ '[')).reverse)
    | [] => none
  | _ => none

def weightValue? (digits : List Char) : Option Float :=
  let places := digits.dropWhile Char.isDigit
  let isWritten : Bool := match places with
    | [] => true
    | '.' :: ds => ds ≠ [] && ds.all Char.isDigit
    | _ => false
  if digits.takeWhile Char.isDigit ≠ [] ∧ isWritten then Number.ofChars? digits else none

/-- The text and the positive weight in brackets at its end. -/
def weighted? (text : String) : Option (String × Float) :=
  (lastBracketed? text.toList).bind fun (before, digits) =>
    (weightValue? digits).bind fun w =>
      if 0 < w then some (String.ofList (Text.trimEnd before), w) else none

/-- The alternative of a tree. A weight at the end of its last text belongs to the alternative and
not to the text, unless there is nothing else. -/
def Alternative.ofTree (tree : Tree) : Alternative :=
  match tree.getLast? with
  | some (.text s) =>
    match weighted? s with
    | some (kept, w) =>
      if tree.length = 1 ∧ Text.trimmed kept = "" then .mk tree.trim none
      else .mk (Tree.trim (Tree.mapLast (fun _ => .text kept) tree)) (some w)
    | none => .mk tree.trim none
  | _ => .mk tree.trim none

end TextGen.Script
