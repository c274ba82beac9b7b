import TextGen.Number.Decimal
import TextGen.Text.Search
import TextGen.Unicode.Property

/-! Character references in text.
Four named references are exchanged one name after the other, then those in decimal digits, then
those in hexadecimal digits. So text that one step produces can be part of a reference for a later
one. A number that stands for no character leaves the text as it is. -/
namespace TextGen.Text.Entity

def ofCode? (n : Nat) : Option Char := if n.isValidChar then some (Char.ofNat n) else none

/-- A reference at the front of the text whose digits satisfy the test. It gives the character and
the number of characters of the reference after the first. -/
def numbered? (opening : List Char) (isDigit : Char → Bool) (value? : List Char → Option Nat)
    (text : List Char) : Option (Char × Nat) := do
  let rest ← dropPrefix? opening text
  let digits := rest.takeWhile isDigit
  match digits, rest.dropWhile isDigit with
  | _ :: _, ';' :: _ =>
    let c ← (value? digits).bind ofCode?
    some (c, opening.length + digits.length)
  | _, _ => none

/-- Digits of other scripts make up a reference too, but one without a value. -/
def decimal? : List Char → Option (Char × Nat) :=
  numbered? "&#".toList Unicode.isDecimalDigit fun digits =>
    if digits.all Char.isDigit then some (Number.ofDigits digits) else none

def isHexDigit (c : Char) : Bool := (Unicode.hexDigit? c).isSome

def hexadecimal? (text : List Char) : Option (Char × Nat) :=
  let entity? (opening : String) :=
    numbered? opening.toList isHexDigit (some <| Unicode.ofHex ·) text
  (entity? "&#x").or (entity? "&#X")

/-- Exchanges references from left to right. The number counts the characters of a reference that
are still to be passed over. -/
def decodeFrom (entity? : List Char → Option (Char × Nat)) : Nat → List Char → List Char
  | _, [] => []
  | skip + 1, _ :: text => decodeFrom entity? skip text
  | 0, c :: text =>
    match entity? (c :: text) with
    | some (new, length) => new :: decodeFrom entity? length text
    | none => c :: decodeFrom entity? 0 text

def named : List (String × Char) :=
  [("&lt;", '<'), ("&gt;", '>'), ("&amp;", '&'), ("&quot;", '"')]

def decodeNamed (text : List Char) : List Char :=
  named.foldl (fun text (name, c) => replaceAll name.toList [c] text) text

def decode (text : String) : String :=
  String.ofList (decodeFrom hexadecimal? 0 (decodeFrom decimal? 0 (decodeNamed text.toList)))

end TextGen.Text.Entity
