import TextGen.Lexicon.Table

/-! Words that sound alike at their ends or beginnings.
Two words rhyme if their pronunciations end alike from the last stress on, and alliterate if their
stressed syllables begin with the same consonant. -/
namespace TextGen.Lexicon

/-- The words that satisfy the test, in order. The limit is looked at after each word that the
options accept, so a limit of zero has an effect only until the first word is found. The number
counts the words found before. -/
def collect (o : SearchOptions) (test : String → Entry → Bool) : Nat → Table → List String
  | _, [] => []
  | n, (word, e) :: rest =>
    if !o.accepts 3 word e then collect o test n rest
    else if test word e then
      word :: (if o.limit = some (n + 1) then [] else collect o test (n + 1) rest)
    else if o.limit = some n then []
    else collect o test n rest

namespace Table

def others (t : Table) (word : String) (o : SearchOptions) (test : List Char → Bool) :
    List String :=
  collect o (fun _ e => test e.phones.toList) 0 (t.filter (·.1 ≠ word))

/-- The words whose pronunciation ends with the stressed tail of the given word. -/
def rhymes (t : Table) (word : String) (o : SearchOptions) : List String :=
  let word := Unicode.lowercase word
  match t.phones? word with
  | none => []
  | some phones =>
    let tail := stressedTail phones
    t.others word o (Text.endsWith · tail)

/-- The words whose onset is that of the given word, which must start with a consonant. -/
def alliterations (t : Table) (word : String) (o : SearchOptions) (r : Run) : List String × Run :=
  let word := Unicode.lowercase word
  let warn (text : String) : Run := if o.silent then r else r.warn (text ++ "'" ++ word ++ "'")
  if word.toList.head?.all Word.isVowel then
    ([], warn "expects a word starting with a consonant, got: ")
  else match (t.phones? word).bind onset? with
    | none => ([], warn "failed parsing first phone in ")
    | some onset => (t.others word o fun phones => onset? phones == some onset, r)

/-- Whether two words of the table have the same rhyme part. Words that are pronounced alike do not
rhyme. -/
def isRhyme (t : Table) (a b : String) : Bool :=
  match t.phones? a, t.phones? b with
  | some p, some q => p ≠ q && rhymePart p == rhymePart q
  | _, _ => false

def isAlliteration (t : Table) (a b : String) : Bool :=
  match (t.phones? a).bind onset?, (t.phones? b).bind onset? with
  | some p, some q => !startsWithVowel p && !startsWithVowel q && p == q
  | _, _ => false

end Table

def rhymes (l : Lexicon) (word : String) (o : SearchOptions) (r : Run) :
    Except Error (List String) × Lexicon × Run :=
  l.ask l.fatal r fun t r => (.ok (t.rhymes word o), r)

def alliterations (l : Lexicon) (word : String) (o : SearchOptions) (r : Run) :
    Except Error (List String) × Lexicon × Run :=
  l.ask l.fatal r fun t r =>
    let (words, r) := t.alliterations word o r
    (.ok words, r)

def sameLetters (a b : String) : Bool :=
  a.toList.map Char.toLower = b.toList.map Char.toLower

/-- The table is not asked about empty words or about a word and itself. -/
def isRhyme (l : Lexicon) (a b : String) (r : Run) : Except Error Bool × Lexicon × Run :=
  if a = "" ∨ b = "" ∨ sameLetters a b then (.ok false, l, r)
  else l.ask l.fatal r fun t r => (.ok (t.isRhyme a b), r)

def isAlliteration (l : Lexicon) (a b : String) (r : Run) : Except Error Bool × Lexicon × Run :=
  l.ask l.fatal r fun t r => (.ok (a ≠ "" && b ≠ "" && t.isAlliteration a b), r)

end TextGen.Lexicon
