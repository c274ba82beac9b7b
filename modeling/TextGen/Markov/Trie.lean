/-! Counted prefix trees of tokens.
A tree is a list of branches in the order in which they first appeared. Each has a token, the number
of times it was passed, and the tree below it. Branches beside one another have different tokens,
because `hit` is the only way to make one. -/
namespace TextGen.Markov

inductive Trie where
  | empty
  | branch (token : String) (count : Nat) (below beside : Trie)
deriving DecidableEq, Repr, Inhabited

def marker : String := "<s/>"

namespace Trie

/-- Passes the branch of a token, which is appended if there is none, and grows the tree below
it. -/
def hit (token : String) (grow : Trie → Trie) : Trie → Trie
  | empty => branch token 1 (grow empty) empty
  | branch t count below beside =>
    if t = token then branch t (count + 1) (grow below) beside
    else branch t count below (hit token grow beside)

def insert : List String → Trie → Trie
  | [], trie => trie
  | token :: window, trie => trie.hit token (insert window)

/-- Inserts the windows of at most `n` tokens that begin at each place of a batch. -/
def insertWindows (n : Nat) : List String → Trie → Trie
  | [], trie => trie
  | token :: batch, trie => insertWindows n batch (trie.insert ((token :: batch).take n))

def child? (token : String) : Trie → Option (Nat × Trie)
  | empty => none
  | branch t count below beside => if t = token then some (count, below) else child? token beside

/-- The tree below a path. -/
def walk? : List String → Trie → Option Trie
  | [], trie => some trie
  | token :: path, trie => (trie.child? token).bind fun (_, below) => walk? path below

/-- The number of times a path was passed; none for the empty path. -/
def count? : List String → Trie → Option Nat
  | [], _ => none
  | [token], trie => (trie.child? token).map (·.1)
  | token :: path, trie => (trie.child? token).bind fun (_, below) => count? path below

def entries : Trie → List (String × Nat)
  | empty => []
  | branch t count _ beside => (t, count) :: beside.entries

def counts (trie : Trie) : List Nat := trie.entries.map (·.2)

def words (trie : Trie) : List (String × Nat) := trie.entries.filter (·.1 ≠ marker)

/-- The sum of the counts of the top branches, the marker's left out. -/
def total (trie : Trie) : Nat := trie.words.foldl (fun sum (_, count) => sum + count) 0

def erase (token : String) : Trie → Trie
  | empty => empty
  | branch t count below beside =>
    if t = token then beside else branch t count below (erase token beside)

def size : Trie → Nat
  | empty => 0
  | branch _ _ below beside => 1 + below.size + beside.size

def width (trie : Trie) : Nat := trie.entries.length

end Trie

end TextGen.Markov
