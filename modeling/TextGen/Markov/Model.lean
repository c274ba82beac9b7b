import TextGen.Markov.Trie
import TextGen.Text.Quoted
import TextGen.Text.Split
import TextGen.Token

/-! Models of texts by runs of tokens.
A model of order `n` counts every run of at most `n` tokens of the texts it was trained on, and
keeps these texts as one list of tokens. Runs do not reach from one load into the next. -/
namespace TextGen

/-- `order` is the length of the longest runs that are counted. -/
structure Markov where
  order : Nat
  order_pos : 0 < order
  trie : Markov.Trie := .empty
  input : List String := []
  tokenizer : Tokenizer := .plain

namespace Markov

inductive Error where
  | invalidOrder (n : Nat)
  | noSentenceStart
  | startTokensNotFound (tokens : List String)
  | startTooLong (length num : Nat)
  | contextTooLong (order length : Nat)
  | exhausted (attempts : Nat) (copiesLimited : Bool)
deriving DecidableEq, Repr

def Error.message : Error → String
  | invalidOrder n => "n-gram order must be at least 1, got " ++ toString n
  | noSentenceStart =>
    "no sentence start found; load text with load_sentences() or load_text() before generating "
      ++ "sentences"
  | startTokensNotFound tokens => "cannot find start token(s): " ++ Text.quotedList tokens
  | startTooLong length num =>
    toString length ++ " start tokens cannot fit in " ++ toString num ++ " generated tokens"
  | contextTooLong order length =>
    "sum of pre.len() and post.len() must be < n (" ++ toString order ++ "), was "
      ++ toString length
  | exhausted attempts copiesLimited =>
    "failed after " ++ toString attempts ++ " tries; you may need to add more text to the model or "
      ++ (if copiesLimited then "increase the max_length_match parameter" else "adjust options")

def ofOrder? (n : Nat) : Except Error Markov :=
  if h : 0 < n then .ok { order := n, order_pos := h } else .error (.invalidOrder n)

/-- Counts the runs of a batch. -/
def count (m : Markov) (batch : List String) : Markov :=
  { m with trie := m.trie.insertWindows m.order batch }

/-- Counts tokens and keeps them all, also one that is spelled like the marker. -/
def addTokens (m : Markov) (tokens : List String) : Markov :=
  { m.count tokens with input := m.input ++ tokens }

/-- The tokens of a sentence after a marker; nothing for a sentence without tokens. -/
def markedTokens (t : Tokenizer) (sentence : String) : List String :=
  let spaced := (Text.words sentence.toList).map String.ofList
  match t.tokenize (String.intercalate " " spaced) with
  | [] => []
  | words => marker :: words

/-- Counts sentences, as one batch with a marker before each of them. The markers are not kept. -/
def addSentences (m : Markov) (sentences : List String) : Markov :=
  let batch := sentences.flatMap (markedTokens m.tokenizer)
  { m.count batch with input := m.input ++ batch.filter (· ≠ marker) }

def addText (m : Markov) (text : String) : Markov :=
  m.addSentences (m.tokenizer.sentences text)

def size (m : Markov) : Nat := m.trie.total

end Markov

end TextGen
