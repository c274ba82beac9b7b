import TextGen.Lexicon.Entry
import TextGen.Text.Quoted

/-! What is asked of the words that a query returns.
Options leave things unset, and each query has its own least length for that case. Tags of parts of
speech may be shortened, and some of them ask for an inflected form. -/
namespace TextGen.Lexicon

inductive SearchType where
  | word
  | phones
  | stresses
deriving DecidableEq, Repr

structure SearchOptions where
  minLength : Option Nat := none
  maxLength : Option Nat := none
  numSyllables : Option Nat := none
  limit : Option Nat := none
  minDistance : Nat := 1
  pos : Option String := none
  searchType : SearchType := .word
  matchSpelling : Bool := false
  silent : Bool := false
deriving DecidableEq, Repr

def SearchType.name : SearchType → String
  | word => "Word"
  | phones => "Phones"
  | stresses => "Stresses"

def SearchOptions.text (o : SearchOptions) : String :=
  let optional (x : Option String) : String :=
    match x with
    | none => "None"
    | some t => "Some(" ++ t ++ ")"
  let number (x : Option Nat) : String := optional (x.map toString)
  let flag (b : Bool) : String := if b then "true" else "false"
  let fields := [("min_length", number o.minLength), ("max_length", number o.maxLength),
    ("num_syllables", number o.numSyllables), ("limit", number o.limit),
    ("min_distance", toString o.minDistance), ("pos", optional (o.pos.map Text.quoted)),
    ("search_type", o.searchType.name), ("match_spelling", flag o.matchSpelling),
    ("silent", flag o.silent)]
  "SearchOptions \x7b "
    ++ String.intercalate ", " (fields.map fun (name, value) => name ++ ": " ++ value) ++ " \x7d"

inductive Inflection where
  | plain
  | plural
  | verb (pos : String)
deriving DecidableEq, Repr

/-- The first tag that a word must have, and the form it is wanted in. -/
structure Target where
  pos : String
  inflection : Inflection
deriving DecidableEq, Repr

/-- Nouns and verbs have many tags that stand for forms of one word. A tag of a verb asks for a form
if it is longer than the plain one. -/
def Target.ofPos (pos : String) : Target :=
  match pos.toList with
  | 'n' :: _ => ⟨"nn", if pos = "nns" then .plural else .plain⟩
  | 'v' :: _ => ⟨"vb", if 2 < pos.utf8ByteSize then .verb pos else .plain⟩
  | ['r'] => ⟨"rb", .plain⟩
  | ['a'] => ⟨"jj", .plain⟩
  | _ => ⟨pos, .plain⟩

namespace SearchOptions

/-- No target is set by the empty tag. -/
def target? (o : SearchOptions) : Option Target :=
  (o.pos.filter (· ≠ "")).map Target.ofPos

/-- The number of syllables asked for; zero asks for none. -/
def syllables? (o : SearchOptions) : Option Nat := o.numSyllables.filter (0 < ·)

def accepts (o : SearchOptions) (least : Nat) (word : String) (e : Entry) : Bool :=
  let length := word.length
  o.minLength.getD least ≤ length
    && o.maxLength.all (length ≤ ·)
    && o.syllables?.all (e.syllableCount = ·)

end SearchOptions

end TextGen.Lexicon
