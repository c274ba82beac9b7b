import TextGen.Text.Search
import TextGen.Text.Split
import TextGen.Word.Letter

/-! Entries of a lexicon and the sounds in them.
A pronunciation separates syllables by spaces and the phonemes of a syllable by hyphens. The digit
1 marks a phoneme that bears stress. -/
namespace TextGen.Lexicon

/-- A pronunciation, and tags for the parts of speech, the most likely first. -/
structure Entry where
  phones : String
  pos : String
deriving DecidableEq, Repr, Inhabited

def syllables (phones : List Char) : List (List Char) := Text.splitOn ' ' phones

def isStressed (syllable : List Char) : Bool := syllable.contains '1'

/-- The phonemes without marks of stress, all separated by hyphens. -/
def unstressed (phones : List Char) : List Char :=
  (phones.filter fun c => c ≠ '0' && c ≠ '1').map fun c => if c = ' ' then '-' else c

def phonemes (phones : List Char) : List (List Char) := Text.splitOn '-' (unstressed phones)

/-- The end of a pronunciation from the start of the phoneme that bears the last stress; all of it
if there is no stress. -/
def stressedTail (phones : List Char) : List Char :=
  let after := Text.takeWhileEnd (· ≠ '1') phones
  match (phones.take (phones.length - after.length)).reverse with
  | [] => phones
  | stress :: before =>
    let phoneme := before.takeWhile fun c => c ≠ '-' && c ≠ ' '
    phoneme.reverse ++ stress :: after

/-- The last syllable of the stressed tail from its first vowel on, or all of the syllable if it has
none. -/
def rhymePart (phones : List Char) : List Char :=
  let last := Text.takeWhileEnd (· ≠ ' ') (stressedTail phones)
  match last.dropWhile (!Word.isVowel ·) with
  | [] => last
  | vowel => vowel

/-- The first phoneme of the first stressed syllable. -/
def onset? (phones : List Char) : Option (List Char) :=
  ((syllables phones).find? isStressed).bind fun syllable =>
    match syllable.takeWhile (· ≠ '-') with
    | [] => none
    | phoneme => some phoneme

def startsWithVowel (phoneme : List Char) : Bool := phoneme.head?.any Word.isVowel

namespace Entry

def syllableCount (e : Entry) : Nat := (syllables e.phones.toList).length

def phonemeText (e : Entry) : String := String.ofList (unstressed e.phones.toList)

def stressText (e : Entry) : String :=
  String.intercalate "/"
    ((syllables e.phones.toList).map fun s => if isStressed s then "1" else "0")

def firstPos (e : Entry) : String := String.ofList (e.pos.toList.takeWhile (· ≠ ' '))

end Entry

end TextGen.Lexicon
