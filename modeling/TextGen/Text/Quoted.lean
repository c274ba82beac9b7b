import TextGen.Unicode.Property

/-! Text made visible.
Characters that do not show as themselves are written as escapes: the usual short ones, and the
code point in hexadecimal for the others. -/
namespace TextGen.Text

/-- The characters that are escaped beside those that cannot be printed. -/
structure Escapes where
  apostrophe : Bool
  extending : Bool
deriving DecidableEq, Repr

def escapeChar (e : Escapes) (c : Char) : List Char :=
  if c = '\x00' then ['\\', '0']
  else if c = '\t' then ['\\', 't']
  else if c = '\r' then ['\\', 'r']
  else if c = '\n' then ['\\', 'n']
  else if c = '\\' ∨ c = '"' ∨ (c = '\'' ∧ e.apostrophe) then ['\\', c]
  else if (e.extending && Unicode.isExtending c) || !Unicode.isPrintable c then
    ['\\', 'u', '{'] ++ Nat.toDigits 16 c.toNat ++ ['}']
  else [c]

/-- Both quotes are escaped; a character that extends another one is escaped only in front. -/
def escaped (s : String) : String :=
  String.ofList <| match s.toList with
    | [] => []
    | c :: rest => escapeChar ⟨true, true⟩ c ++ rest.flatMap (escapeChar ⟨true, false⟩)

def quoted (s : String) : String :=
  "\"" ++ String.ofList (s.toList.flatMap (escapeChar ⟨false, true⟩)) ++ "\""

def quotedList (items : List String) : String :=
  "[" ++ String.intercalate ", " (items.map quoted) ++ "]"

end TextGen.Text
