/-! Values of the JSON data format.
The members of an object keep their order, and a key may appear more than once. Numbers are kept as
they were written. -/
namespace TextGen.Json

inductive Value where
  | null
  | boolean (b : Bool)
  | number (text : String)
  | text (s : String)
  | array (items : List Value)
  | object (members : List (String × Value))
deriving Repr, Inhabited

/-- Replaces the value of a key that is present, and appends one that is not. -/
def insertMember (key : String) (value : Value) :
    List (String × Value) → List (String × Value)
  | [] => [(key, value)]
  | (k, v) :: rest =>
    if k = key then (k, value) :: rest else (k, v) :: insertMember key value rest

/-- One member for each key, at the place of the first with this key and with the value of the
last. -/
def merged (members : List (String × Value)) : List (String × Value) :=
  members.foldl (fun kept (key, value) => insertMember key value kept) []

def Value.kind : Value → String
  | null => "null"
  | boolean _ => "a boolean"
  | number _ => "a number"
  | text _ => "a string"
  | array _ => "an array"
  | object _ => "an object"

end TextGen.Json
