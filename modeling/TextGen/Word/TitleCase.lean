import TextGen.Unicode.Property

/-! Title case.
Every word begins with a capital and goes on in lower case, and single spaces stand between words.
A word begins after characters that are neither letters nor digits, after a digit, and at a capital
that follows a lower-case letter. Only letters of ASCII change their case. -/
namespace TextGen.Word

/-- What has been read: whether a word begins with the next letter, whether a word or digit has
been written, whether the first word is still to come, and the last lower-case letter. -/
structure TitleState where
  newWord : Bool := true
  firstWord : Bool := true
  found : Bool := false
  last : Char := ' '
deriving DecidableEq, Repr

def titleStep (s : TitleState) (c : Char) : TitleState × List Char :=
  if !Unicode.isAlphanumeric c then
    (if s.found then { s with newWord := true } else s, [])
  else if Unicode.isNumeric c then ({ s with found := true, newWord := true }, [c])
  else if s.newWord || (Unicode.isLowercase s.last && Unicode.isUppercase c) then
    ({ s with found := true, newWord := false, firstWord := false },
      (if s.firstWord then [] else [' ']) ++ [c.toUpper])
  else ({ s with found := true, last := c }, [c.toLower])

def titleFrom (s : TitleState) : List Char → List Char
  | [] => []
  | c :: rest =>
    let (s, written) := titleStep s c
    written ++ titleFrom s rest

/-- Characters at the end that are neither letters nor digits are dropped. -/
def titleCase (text : String) : String :=
  let kept := (text.toList.reverse.dropWhile (!Unicode.isAlphanumeric ·)).reverse
  String.ofList (titleFrom {} kept)

end TextGen.Word
