import TextGen.Text.Split

/-! Tokens, sentences and their text.
A text is cut at blanks, and punctuation marks become tokens of their own. An apostrophe inside a
word stays in it. A text that was put together from tokens need not be cut into them again. -/
namespace TextGen.Token

def enders : List Char := ['.', '!', '?']

def marks : List Char := ['.', '!', '?', ',', ';', ':', '"', '\'']

def isMark (token : String) : Bool :=
  match token.toList with
  | [c] => marks.contains c
  | _ => false

def endsSentence (token : String) : Bool :=
  match token.toList with
  | [c] => enders.contains c
  | _ => false

theorem endsSentence_iff (token : String) :
    endsSentence token = true ↔ token ∈ [".", "!", "?"] := by
  constructor
  · intro ends
    rw [endsSentence] at ends
    split at ends
    · rename_i c single
      have same : token = String.ofList [c] := by rw [← single, String.ofList_toList]
      have among : c = '.' ∨ c = '!' ∨ c = '?' := by simpa [enders] using ends
      rcases among with rfl | rfl | rfl <;> simp [same]
    · cases ends
  · intro among
    simp only [List.mem_cons, List.not_mem_nil, or_false] at among
    rcases among with rfl | rfl | rfl <;> rfl

def breaksWord (c : Char) : Bool := marks.contains c && c != '\''

/-- An apostrophe at the end of a word, with something before it, is a token of its own. -/
def ofWord (word : List Char) : List (List Char) :=
  match word.reverse with
  | [] => []
  | '\'' :: c :: stem => [(c :: stem).reverse, ['\'']]
  | _ => [word]

/-- The tokens of a text without blanks: leading marks one by one, then a word up to the next mark
that breaks it. -/
def ofPiece : List Char → List (List Char)
  | [] => []
  | c :: rest =>
    if marks.contains c then [c] :: ofPiece rest
    else
      ofWord (c :: rest.takeWhile (!breaksWord ·)) ++ ofPiece (rest.dropWhile (!breaksWord ·))
termination_by text => text.length
decreasing_by
  · simp
  · have := (List.dropWhile_sublist (l := rest) (fun c => !breaksWord c)).length_le
    simp only [List.length_cons]
    omega

def tokenize (text : String) : List String :=
  ((Text.words text.toList).flatMap ofPiece).map String.ofList

/-- Each token with the space before it; marks follow the word without one. -/
def spaced (token : String) : String := if isMark token then token else " " ++ token

def join : List String → String
  | [] => ""
  | token :: rest => token ++ String.join (rest.map spaced)

/-- Sentences end with a token that ends sentences; the last one may do without. -/
def splitSentences : List String → List (List String)
  | [] => []
  | token :: rest =>
    if endsSentence token then [token] :: splitSentences rest
    else match splitSentences rest with
      | [] => [[token]]
      | sentence :: sentences => (token :: sentence) :: sentences

def sentences (text : String) : List String := (splitSentences (tokenize text)).map join

end TextGen.Token

namespace TextGen

/-- How a text becomes tokens and sentences, and how tokens become a text. -/
structure Tokenizer where
  tokenize : String → List String
  join : List String → String
  sentences : String → List String

def Tokenizer.plain : Tokenizer := ⟨Token.tokenize, Token.join, Token.sentences⟩

end TextGen
