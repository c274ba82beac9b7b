import TextGen.Pattern.Flags

/-! Escapes.
Behind a backslash stand signs that would have a meaning of their own, characters by their code
points, classes of characters, and conditions on a place. -/
namespace TextGen.Pattern

open TextGen.Unicode (Ranges)

inductive Atom where
  | char (c : Char)
  | set (s : Ranges)
  | anchor (a : Anchor)
deriving DecidableEq, Repr

def metaChars : List Char := "\\.+*?()|[]\x7b\x7d^$#&-~".toList

def isPlainEscape (c : Char) : Bool :=
  metaChars.contains c || (c.toNat < 128 && !c.isAlphanum && c ≠ '<' && c ≠ '>')

def isHexDigit (c : Char) : Bool := (Unicode.hexDigit? c).isSome

def ofCode? (digits : List Char) : Option Char :=
  let n := Unicode.ofHex digits
  if n.isValidChar then some (Char.ofNat n) else none

def hexDigits? (f : Flags) : Nat → List Char → Option (List Char × List Char)
  | 0, text => some ([], text)
  | k + 1, text =>
    match f.skip text with
    | c :: rest =>
      if isHexDigit c then (hexDigits? f k rest).map fun (ds, after) => (c :: ds, after) else none
    | [] => none

/-- A code point in `k` hexadecimal digits, or in any number of them between braces. Two digits
stand for a byte if Unicode is off, and a byte above those of ASCII is no character. -/
def hexChar? (f : Flags) (k : Nat) (text : List Char) : Option (Char × List Char) :=
  match f.skip text with
  | '\x7b' :: rest => do
    let (digits, after) ← f.upToBrace? rest
    if digits ≠ [] ∧ digits.all isHexDigit then (ofCode? digits).map (·, after) else none
  | rest => do
    let (digits, after) ← hexDigits? f k rest
    let c ← ofCode? digits
    if k = 2 ∧ !f.unicode ∧ 128 ≤ c.toNat then none else some (c, after)

def propertyClass? (f : Flags) (negated : Bool) (text : List Char) :
    Option (Ranges × List Char) := do
  let (name, after) ← match f.skip text with
    | [] => none
    | '\x7b' :: rest => f.upToBrace? rest
    | c :: rest => if c = '\\' then none else some ([c], rest)
  let (without, set) ← property? name
  if f.unicode then
    (f.complementIf? (negated != without) (f.fold set)).map (·, after)
  else none

/-- An edge of words, of one of four kinds if a name in braces follows. What stands in the braces is
no name if it does not begin like one. -/
def wordEdge? (f : Flags) (text : List Char) : Option (Anchor × List Char) :=
  let isPart (c : Char) : Bool := c.isAlpha || c = '-'
  match text with
  | '\x7b' :: rest =>
    match f.skip rest with
    | [] => none
    | c :: inner =>
      if isPart c then
        let (name, after) := f.takeWhile isPart (c :: inner)
        match after with
        | '\x7d' :: after =>
          match String.ofList name with
          | "start" => some (.wordStart f.unicode, after)
          | "end" => some (.wordEnd f.unicode, after)
          | "start-half" => some (.noWordBefore f.unicode, after)
          | "end-half" => some (.noWordAfter f.unicode, after)
          | _ => none
        | _ => none
      else some (.wordEdge f.unicode, text)
  | _ => some (.wordEdge f.unicode, text)

def escape? (f : Flags) : List Char → Option (Atom × List Char)
  | [] => none
  | c :: rest =>
    if isPlainEscape c then some (.char c, rest)
    else match c with
      | 'x' => (hexChar? f 2 rest).map fun (c, after) => (.char c, after)
      | 'u' => (hexChar? f 4 rest).map fun (c, after) => (.char c, after)
      | 'U' => (hexChar? f 8 rest).map fun (c, after) => (.char c, after)
      | 'p' | 'P' => (propertyClass? f (c = 'P') rest).map fun (s, after) => (.set s, after)
      | 'd' | 's' | 'w' | 'D' | 'S' | 'W' =>
        (f.letterClass? c).map fun s => (.set s, rest)
      | 'a' => some (.char '\x07', rest)
      | 'f' => some (.char '\x0c', rest)
      | 't' => some (.char '\t', rest)
      | 'n' => some (.char '\n', rest)
      | 'r' => some (.char '\r', rest)
      | 'v' => some (.char '\x0b', rest)
      | 'A' => some (.anchor .textStart, rest)
      | 'z' => some (.anchor .textEnd, rest)
      | 'b' => (wordEdge? f rest).map fun (a, after) => (.anchor a, after)
      | 'B' => some (.anchor (.noWordEdge f.unicode), rest)
      | '<' => some (.anchor (.wordStart f.unicode), rest)
      | '>' => some (.anchor (.wordEnd f.unicode), rest)
      | _ => none

def Atom.pattern (f : Flags) : Atom → Pattern
  | char c => f.literal c
  | set s => ofSet s
  | anchor a => .anchor a

end TextGen.Pattern
