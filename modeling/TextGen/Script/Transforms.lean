import TextGen.Script.Node
import TextGen.Script.Value
import TextGen.Unicode.Case
import TextGen.Word.Morphology
import TextGen.Word.TitleCase

/-! Transforms of text.
A table holds transforms by name. A segment of a chain stands for a property of an object, a
function of the context, a transform of the table, or one of a few that need no table. -/
namespace TextGen.Script

/-- The names that say how a choice is made. As transforms they change nothing. -/
def policyNames : List String := ["seq", "rseq", "norep"]

def isPolicy (name : String) : Bool := policyNames.contains name

abbrev Transforms := List (String × (String → String))

namespace Transforms

def insert (name : String) (f : String → String) : Transforms → Transforms
  | [] => [(name, f)]
  | (n, g) :: rest =>
    if name < n then (name, f) :: (n, g) :: rest
    else if n = name then (n, f) :: rest
    else (n, g) :: insert name f rest

def ofList (transforms : List (String × (String → String))) : Transforms :=
  transforms.foldl (fun table (name, f) => insert name f table) []

def get? (t : Transforms) (name : String) : Option (String → String) := t.lookup name

def names (t : Transforms) : List String := t.map (·.1)

def capitalize (s : String) : String :=
  match s.toList with
  | [] => ""
  | first :: rest => String.ofList (Unicode.upperChar first ++ rest)

def articlize (s : String) : String :=
  (if s.toList.head?.any Word.isVowel then "an " else "a ") ++ s

def inQuotes (s : String) : String := "\"" ++ s ++ "\""

def withComma (s : String) : String :=
  if s.toList.getLast?.any [',', '.', '!', '?'].contains then s else s ++ ","

def regular (f : Word.Morphology) : Transforms :=
  ofList <|
    [("capitalize", capitalize), ("cap", capitalize), ("uc", Unicode.uppercase),
      ("lc", Unicode.lowercase), ("titleCase", Word.titleCase), ("articlize", articlize),
      ("a", articlize), ("quotify", inQuotes), ("inQuotes", inQuotes), ("comma", withComma),
      ("pluralize", f.pluralize), ("s", f.pluralize), ("ed", f.pastParticiple)]
      ++ policyNames.map (·, id)

end Transforms

/-- The transforms of texts that are there without a table. All but the length are written with
parentheses. -/
def native? (s : Segment) (text : String) : Option String :=
  match s.name, s.call with
  | "toUpperCase", true => some (Unicode.uppercase text)
  | "toLowerCase", true => some (Unicode.lowercase text)
  | "trim", true => some (Text.trimmed text)
  | "toString", true => some text
  | "length", false => some (toString text.length)
  | _, _ => none

/-- A property of an object, which is asked for without parentheses. -/
def property? (s : Segment) : Value → Option Value
  | .object properties => if s.call then none else properties.get? s.name
  | _ => none

def applySegment? (table : Transforms) (context : Context) (s : Segment) (v : Value) :
    Option Value :=
  match property? s v with
  | some p => some p
  | none =>
    match context.get? s.name with
    | some (.function f) => some (.text (f.apply v.display))
    | _ =>
      match table.get? s.name with
      | some f => some (.text (f v.display))
      | none => (v.text?.bind (native? s)).map .text

/-- A chain without the segments that name a policy. -/
def Chain.effective (c : Chain) : Chain := c.filter (!isPolicy ·.name)

/-- The value that a chain leads to. At a segment that cannot be applied it ends, with the segments
that are left. -/
def applySegments (table : Transforms) (context : Context) : Chain → Value → Value × Chain
  | [], v => (v, [])
  | s :: rest, v =>
    match applySegment? table context s v with
    | some next => applySegments table context rest next
    | none => (v, s :: rest)

end TextGen.Script
