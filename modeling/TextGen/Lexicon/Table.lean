import TextGen.Json.Reader
import TextGen.Lexicon.Criteria
import TextGen.Run
import TextGen.Unicode.Case
import TextGen.Word.Morphology

/-! Word tables and lexicons.
A table is sorted by the words, each of which has one entry. A lexicon may have no table; then
queries fail, or find nothing and warn once. -/
namespace TextGen

namespace Lexicon

abbrev Table := List (String × Entry)

/-- Keeps the last of neighbours with the same word. -/
def lastOfEach : List (String × Entry) → Table
  | [] => []
  | item :: rest =>
    match lastOfEach rest with
    | [] => [item]
    | next :: kept => if item.1 = next.1 then next :: kept else item :: next :: kept

/-- Of several entries for a word the last one counts. -/
def Table.ofEntries (entries : List (String × Entry)) : Table :=
  lastOfEach (entries.mergeSort fun a b => a.1 ≤ b.1)

def Table.find? (t : Table) (word : String) : Option Entry := t.lookup (Unicode.lowercase word)

def Table.phones? (t : Table) (word : String) : Option (List Char) :=
  (t.find? word).map (·.phones.toList)

inductive Error where
  | noLexicon
  | invalidLexicon
  | noRandomWord (options : SearchOptions)
  | pattern
deriving DecidableEq, Repr

def Error.message : Error → String
  | noLexicon => "this operation requires a lexicon; load one with Lexicon::from_json()"
  | invalidLexicon => "invalid lexicon data"
  | noRandomWord options => "no random word with specified options: " ++ options.text
  | pattern => "invalid search pattern"

def Entry.ofJson? : Json.Value → Option Entry
  | .array [.text phones, .text pos] => some ⟨phones, pos⟩
  | _ => none

def Table.ofJson? (text : String) : Except Error Table :=
  match Json.ofText? text with
  | some (.object members) =>
    match members.mapM fun (word, value) => (Entry.ofJson? value).map (word, ·) with
    | some entries => .ok (ofEntries entries)
    | none => .error .invalidLexicon
  | _ => .error .invalidLexicon

end Lexicon

/-- `fatal` says whether queries without a table fail, `warned` whether the warning was given. -/
structure Lexicon where
  table : Option Lexicon.Table := none
  morphology : Word.Morphology := .regular
  fatal : Bool := true
  warned : Bool := false

namespace Lexicon

def size (l : Lexicon) : Nat := (l.table.getD []).length

def find? (l : Lexicon) (word : String) : Option Entry := l.table.bind (·.find? word)

variable {α : Type}

/-- Asks the table. Without one the answer is that of the empty table, with a warning the first
time, unless its lack is an error. -/
def ask (l : Lexicon) (fatal : Bool) (r : Run) (question : Table → Run → Except Error α × Run) :
    Except Error α × Lexicon × Run :=
  match l.table with
  | some t =>
    let (answer, r) := question t r
    (answer, l, r)
  | none =>
    if fatal then (.error .noLexicon, l, r)
    else
      let (answer, r) := question [] <|
        if l.warned then r
        else r.warn "no lexicon appears to be loaded; word queries will return no results"
      (answer, { l with warned := true }, r)

def hasWord (l : Lexicon) (word : String) (r : Run) : Except Error Bool × Lexicon × Run :=
  if word = "" then (.ok false, l, r)
  else l.ask false r fun t r => (.ok (t.find? word).isSome, r)

end Lexicon

end TextGen
