/-! Cutting text into pieces.
The pieces of a split keep their order, and with the separators between them they are the text
again. Blank characters are those of the Unicode property White_Space. -/
namespace TextGen.Text

def splitWhere (test : Char → Bool) : List Char → List (List Char)
  | [] => [[]]
  | c :: rest =>
    if test c then [] :: splitWhere test rest
    else match splitWhere test rest with
      | [] => [[c]]
      | piece :: pieces => (c :: piece) :: pieces

def splitOn (separator : Char) (text : List Char) : List (List Char) :=
  splitWhere (· == separator) text

def isBlank (c : Char) : Bool :=
  let n := c.toNat
  (9 ≤ n && n ≤ 13) || n == 0x20 || n == 0x85 || n == 0xA0 || n == 0x1680
    || (0x2000 ≤ n && n ≤ 0x200A) || n == 0x2028 || n == 0x2029 || n == 0x202F || n == 0x205F
    || n == 0x3000

def words (text : List Char) : List (List Char) :=
  (splitWhere isBlank text).filter (· ≠ [])

def trimStart (text : List Char) : List Char := text.dropWhile isBlank

def trimEnd (text : List Char) : List Char := (text.reverse.dropWhile isBlank).reverse

def trim (text : List Char) : List Char := trimEnd (trimStart text)

def trimmed (s : String) : String := String.ofList (trim s.toList)

def takeWhileEnd (test : Char → Bool) (text : List Char) : List Char :=
  (text.reverse.takeWhile test).reverse

end TextGen.Text
