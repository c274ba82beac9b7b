import TextGen.Markov.Query
import TextGen.Number.Double

/-! A model written out.
Every branch stands on a line of its own with its count and its probability among the branches
beside it. -/
namespace TextGen.Markov

def Trie.lines (total depth : Nat) : Trie → List String
  | empty => []
  | branch token count below beside =>
    let indent := String.ofList (List.replicate (2 * depth) ' ')
    let share := Number.fixed 3 (Ratio.toFloat ⟨count, total⟩)
    let line :=
      indent ++ "'" ++ Text.escaped token ++ "' [" ++ toString count ++ ",p=" ++ share ++ "]"
    let here :=
      if below = empty then [line]
      else (line ++ " \x7b") :: below.lines below.total (depth + 1) ++ [indent ++ "\x7d"]
    here ++ beside.lines total depth

def outline (m : Markov) : String :=
  String.intercalate "\n" (("Root \x7b" :: m.trie.lines m.trie.total 1) ++ ["\x7d"])

def summary (m : Markov) : String :=
  "Markov \x7b n: " ++ toString m.order ++ ", nodes: " ++ toString (m.trie.size + 1) ++ ", input: "
    ++ toString m.input.length ++ " \x7d"

end TextGen.Markov
