import TextGen.Lexicon.Sound
import TextGen.Pattern.Reader

/-! Searching by pattern.
The pattern is matched against the words, their phonemes or their stresses. A pattern of stress
digits alone is spread out to the form in which stresses are written. -/
namespace TextGen.Lexicon

def SearchType.subject (k : SearchType) (word : String) (e : Entry) : String :=
  match k with
  | .word => word
  | .phones => e.phonemeText
  | .stresses => e.stressText

def searchPattern (k : SearchType) (pattern : String) : String :=
  if k = .stresses ∧ pattern.toList.all (fun c => c = '0' || c = '1') then
    String.intercalate "/" (pattern.toList.map String.singleton)
  else pattern

def Table.search (t : Table) (pattern : String) (o : SearchOptions) :
    Except Error (List String) :=
  match Pattern.ofText? (searchPattern o.searchType pattern) with
  | none => .error .pattern
  | some p => .ok (collect o (fun word e => p.isMatch (o.searchType.subject word e)) 0 t)

def search (l : Lexicon) (pattern : String) (o : SearchOptions) (r : Run) :
    Except Error (List String) × Lexicon × Run :=
  l.ask l.fatal r fun t r => (t.search pattern o, r)

end TextGen.Lexicon
