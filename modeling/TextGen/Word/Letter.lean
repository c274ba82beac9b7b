/-! Vowels and the ends of words. -/
namespace TextGen.Word

def vowels : List Char := ['a', 'e', 'i', 'o', 'u']

def isVowel (c : Char) : Bool := vowels.contains c.toLower

def dropEnding? (ending : String) (word : List Char) : Option (List Char) :=
  let reversed := word.reverse
  let e := ending.toList.reverse
  if e.isPrefixOf reversed then some (reversed.drop e.length).reverse else none

def hasEnding (ending : String) (word : List Char) : Bool := (dropEnding? ending word).isSome

/-- Short words that end in consonant, vowel, consonant double the last letter before an ending.
The letters `w`, `x` and `y` are never doubled. -/
def doublesLast (word : List Char) : Bool :=
  match word.reverse with
  | c :: b :: a :: rest =>
    rest.length ≤ 1 && !isVowel a && isVowel b && !isVowel c && !(['w', 'x', 'y'].contains c)
  | _ => false

end TextGen.Word
