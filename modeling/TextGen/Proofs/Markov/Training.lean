import Mathlib
import TextGen.Markov.Model

/-! Training as a sequence of loads.
A load counts one batch of tokens, sentence markers included, and keeps some of its tokens. What a
model has learned depends on its order and on these batches alone. -/
namespace TextGen.Markov

/-- One step of training. -/
inductive Load where
  | tokens (tokens : List String)
  | sentences (sentences : List String)
  | text (text : String)
deriving DecidableEq, Repr

def Load.batch (t : Tokenizer) : Load → List String
  | tokens ts => ts
  | sentences ss => ss.flatMap (markedTokens t)
  | text s => (t.sentences s).flatMap (markedTokens t)

def Load.kept (t : Tokenizer) : Load → List String
  | tokens ts => ts
  | sentences ss => (ss.flatMap (markedTokens t)).filter (· ≠ marker)
  | text s => ((t.sentences s).flatMap (markedTokens t)).filter (· ≠ marker)

def load (m : Markov) : Load → Markov
  | .tokens ts => m.addTokens ts
  | .sentences ss => m.addSentences ss
  | .text s => m.addText s

def loadAll (m : Markov) (loads : List Load) : Markov := loads.foldl load m

/-- A new model of order `n` after a sequence of loads. -/
def trained (n : Nat) (pos : 0 < n) (t : Tokenizer) (loads : List Load) : Markov :=
  loadAll { order := n, order_pos := pos, tokenizer := t } loads

def batches (t : Tokenizer) (loads : List Load) : List (List String) := loads.map (Load.batch t)

def Trie.insertBatches (n : Nat) : List (List String) → Trie → Trie
  | [], trie => trie
  | batch :: rest, trie => insertBatches n rest (trie.insertWindows n batch)

/- What one load does to each part of a model. -/

@[simp] theorem order_load (m : Markov) (l : Load) : (m.load l).order = m.order := by
  cases l <;> rfl

@[simp] theorem tokenizer_load (m : Markov) (l : Load) :
    (m.load l).tokenizer = m.tokenizer := by
  cases l <;> rfl

theorem trie_load (m : Markov) (l : Load) :
    (m.load l).trie = m.trie.insertWindows m.order (l.batch m.tokenizer) := by
  cases l <;> rfl

theorem input_load (m : Markov) (l : Load) :
    (m.load l).input = m.input ++ l.kept m.tokenizer := by
  cases l <;> rfl

/- The same for a sequence of loads. -/

theorem order_loadAll (m : Markov) (loads : List Load) :
    (m.loadAll loads).order = m.order := by
  induction loads generalizing m with
  | nil => rfl
  | cons l loads ih => exact (ih (m.load l)).trans (order_load m l)

theorem trie_loadAll (m : Markov) (loads : List Load) :
    (m.loadAll loads).trie = m.trie.insertBatches m.order (batches m.tokenizer loads) := by
  induction loads generalizing m with
  | nil => rfl
  | cons l loads ih =>
    have rest := ih (m.load l)
    rw [order_load, tokenizer_load, trie_load] at rest
    exact rest

theorem input_loadAll (m : Markov) (loads : List Load) :
    (m.loadAll loads).input = m.input ++ loads.flatMap (Load.kept m.tokenizer) := by
  induction loads generalizing m with
  | nil => exact (List.append_nil m.input).symm
  | cons l loads ih =>
    have rest := ih (m.load l)
    rw [tokenizer_load, input_load, List.append_assoc] at rest
    exact rest

variable (n : Nat) (pos : 0 < n) (t : Tokenizer) (loads : List Load)

@[simp] theorem order_trained : (trained n pos t loads).order = n := order_loadAll _ loads

theorem trie_trained :
    (trained n pos t loads).trie = Trie.empty.insertBatches n (batches t loads) :=
  trie_loadAll _ loads

theorem input_trained :
    (trained n pos t loads).input = loads.flatMap (Load.kept t) :=
  input_loadAll _ loads

end TextGen.Markov
