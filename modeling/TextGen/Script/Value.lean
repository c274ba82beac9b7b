import TextGen.Text.Quoted

/-! Values of symbols.
A value is a text, an object with named properties, or a function on texts. Two functions are the
same only if they are one binding, which their number tells. -/
namespace TextGen.Script

structure Function where
  id : Nat
  apply : String → String

mutual

inductive Value where
  | text (s : String)
  | object (properties : Properties)
  | function (f : Function)

inductive Properties where
  | nil
  | cons (name : String) (value : Value) (rest : Properties)

end

instance : Inhabited Value := ⟨.text ""⟩

namespace Properties

def insert (name : String) (value : Value) : Properties → Properties
  | nil => cons name value nil
  | cons n v rest =>
    if name < n then cons name value (cons n v rest)
    else if n = name then cons n value rest
    else cons n v (insert name value rest)

def ofList (properties : List (String × Value)) : Properties :=
  properties.foldl (fun all (name, value) => all.insert name value) nil

def get? (name : String) : Properties → Option Value
  | nil => none
  | cons n v rest => if n = name then some v else get? name rest

end Properties

namespace Value

def text? : Value → Option String
  | text s => some s
  | _ => none

mutual

def display : Value → String
  | .text s => s
  | .object properties => "\x7b" ++ String.intercalate ", " (displayProperties properties) ++ "\x7d"
  | .function _ => "[function]"

def displayProperties : Properties → List String
  | .nil => []
  | .cons name value rest => (name ++ ": " ++ value.display) :: displayProperties rest

end

mutual

def describe : Value → String
  | .text s => "Text(" ++ Text.quoted s ++ ")"
  | .object properties =>
    "Object(\x7b" ++ String.intercalate ", " (describeProperties properties) ++ "\x7d)"
  | .function _ => "Function"

def describeProperties : Properties → List String
  | .nil => []
  | .cons name value rest =>
    (Text.quoted name ++ ": " ++ value.describe) :: describeProperties rest

end

mutual

def same : Value → Value → Bool
  | .text s, .text t => s = t
  | .object p, .object q => sameProperties p q
  | .function f, .function g => f.id = g.id
  | _, _ => false

def sameProperties : Properties → Properties → Bool
  | .nil, .nil => true
  | .cons n v rest, .cons m w more => n = m && same v w && sameProperties rest more
  | _, _ => false

end

end Value

/-- The bindings of symbols. A symbol that is bound to a source is found under its name after an
ampersand. -/
abbrev Context := List (String × Value)

namespace Context

def get? (c : Context) (name : String) : Option Value := c.lookup name

def bind (name : String) (value : Value) : Context → Context
  | [] => [(name, value)]
  | (n, v) :: rest => if n = name then (n, value) :: rest else (n, v) :: bind name value rest

def remove (c : Context) (name : String) : Context := c.filter (·.1 ≠ name)

end Context

end TextGen.Script
