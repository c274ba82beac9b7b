import TextGen.Word.Letter

/-! Syllables by groups of vowels.
A consonant after a vowel opens a new syllable if a vowel follows it. A `y` is a vowel except at
the start of a word. An ending without a vowel of its own is joined to the syllable before it. -/
namespace TextGen.Word

def isVowelOrY (c : Char) : Bool := isVowel c || c == 'y'

def startsWithVowel : List Char → Bool
  | c :: _ => isVowelOrY c
  | [] => false

/-- Cuts what is left of a word. `initial` holds at the start of the word, `seen` after a vowel of
the current syllable, which has been read so far. -/
def cutSyllables (initial seen : Bool) (current : List Char) : List Char → List (List Char)
  | [] => [current]
  | c :: rest =>
    let vowel := isVowel c || (c == 'y' && !initial)
    if !vowel && seen && startsWithVowel rest then current :: cutSyllables false false [c] rest
    else cutSyllables false (seen || vowel) (current ++ [c]) rest

/-- Whether the last piece of a word is no syllable of its own: it has no vowel, or only a silent
`e` at the end. An `e` after an `l` is not silent. -/
def isSilent (piece : List Char) : Bool :=
  let count := piece.countP isVowelOrY
  count == 0 || (hasEnding "e" piece && !hasEnding "le" piece && count == 1)

def joinSilent : List (List Char) → List (List Char)
  | [] => []
  | [piece] => [piece]
  | [piece, last] => if isSilent last then [piece ++ last] else [piece, last]
  | piece :: next :: rest => piece :: joinSilent (next :: rest)

def syllablesOf (word : List Char) : List (List Char) :=
  if word = [] then [] else joinSilent (cutSyllables true false [] word)

def syllables (word : String) : String :=
  String.intercalate "/" ((syllablesOf word.toList).map String.ofList)

end TextGen.Word
