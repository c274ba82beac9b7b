import TextGen.Markov.Model

/-! What a model knows about a path.
Probabilities are quotients of counts, and stay so until they are asked for as doubles. -/
namespace TextGen.Markov

structure Ratio where
  count : Nat
  total : Nat
deriving DecidableEq, Repr

/-- A share of nothing is zero. -/
def Ratio.toFloat (q : Ratio) : Float :=
  if q.total = 0 then 0.0 else Float.ofNat q.count / Float.ofNat q.total

def lastItems {α : Type} (k : Nat) (items : List α) : List α := items.drop (items.length - k)

/-- The tree below the longest end of a path that counts as a context. -/
def search? (m : Markov) (path : List String) : Option Trie :=
  m.trie.walk? (lastItems (m.order - 1) path)

def Trie.shares (trie : Trie) : List (String × Ratio) :=
  trie.words.map fun (token, count) => (token, ⟨count, trie.total⟩)

/-- The probabilities of the tokens after a path, sorted by token. Nothing follows a context that
was never seen. -/
def probabilities (m : Markov) (path : List String) : List (String × Ratio) :=
  match m.search? path with
  | none => []
  | some trie => trie.shares.mergeSort fun a b => a.1 ≤ b.1

def Trie.share? : List String → Trie → Option Ratio
  | [], _ => none
  | [token], trie => (trie.child? token).map fun (count, _) => ⟨count, trie.total⟩
  | token :: path, trie => (trie.child? token).bind fun (_, below) => share? path below

/-- The probability of the last token of a path after the tokens before it, of which as many count
as the order allows; zero for a path that was never seen. -/
def probability (m : Markov) (path : List String) : Ratio :=
  (m.trie.share? (lastItems m.order path)).getD ⟨0, 0⟩

def continuations (m : Markov) (path : List String) : List String :=
  ((m.probabilities path).mergeSort fun a b => b.2.count ≤ a.2.count).map (·.1)

/-- The tokens that were seen between two runs of tokens, in the order of their first appearance
after the first run. -/
def between (m : Markov) (pre post : List String) : Except Error (List String) :=
  let length := pre.length + post.length
  if m.order ≤ length then .error (.contextTooLong m.order length)
  else match m.trie.walk? pre with
    | none => .ok []
    | some trie =>
      let fits (token : String) : Bool := (m.trie.walk? (pre ++ token :: post)).isSome
      .ok ((trie.words.map (·.1)).filter fits)

end TextGen.Markov
