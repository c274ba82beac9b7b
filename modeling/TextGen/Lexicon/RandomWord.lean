import TextGen.Lexicon.Table

/-! A random word.
The words are tried in order from one that is drawn, going round once; the first that will do is
taken. A part of speech asks for words with this first tag, and may ask for an inflected form. -/
namespace TextGen.Lexicon

def massNouns : List String :=
  ["abalone", "advice", "air", "anger", "applause", "asbestos", "bacon", "baggage", "barracks",
   "beef", "blood", "bravery", "chaos", "chess", "clay", "clothing", "coal", "corps", "cosmos",
   "deer", "dust", "education", "equipment", "evidence", "feedback", "fish", "fun", "furniture",
   "garbage", "gold", "gossip", "gravel", "guilt", "hardware", "health", "heat", "help",
   "homework", "honesty", "ice", "information", "jewelry", "justice", "knowledge", "luck",
   "luggage", "mail", "means", "milk", "money", "mud", "music", "news", "oxygen", "peace",
   "physics", "poetry", "police", "pride", "rice", "salmon", "series", "sheep", "software",
   "species", "steam", "steel", "stuff", "thunder", "traffic", "trash", "trousers", "tuna",
   "warmth", "weather", "wheat", "wisdom", "work"]

/-- Nouns in `-ness` and `-ism`, words that may be participles, and those listed have no plural. -/
def isMassNoun (word : String) (e : Entry) : Bool :=
  Text.endsWith word.toList "ness".toList || Text.endsWith word.toList "ism".toList
    || (Text.cut? "vbg".toList e.pos.toList).any (·.1 ≠ [])
    || massNouns.contains word

def conjugated (f : Word.Morphology) (word pos : String) : String :=
  match pos with
  | "vbd" => f.conjugate word { tense := .past }
  | "vbg" => f.presentParticiple word
  | "vbn" => f.pastParticiple word
  | "vbz" => f.conjugate word { person := .third }
  | _ => f.conjugate word {}

def inflected? (f : Word.Morphology) (i : Inflection) (word : String) (e : Entry) : Option String :=
  match i with
  | .plain => some word
  | .plural => if isMassNoun word e then none else some (f.pluralize word)
  | .verb pos => some (conjugated f word pos)

def keepsSyllables (f : Word.Morphology) (o : SearchOptions) (word form : String) : Bool :=
  match o.syllables? with
  | none => true
  | some n => form = word || (Text.splitOn '/' (f.syllables form).toList).length = n

def form? (f : Word.Morphology) (o : SearchOptions) (word : String) (e : Entry) : Option String :=
  if !o.accepts 4 word e then none
  else match o.target? with
    | none => some word
    | some target =>
      if e.firstPos ≠ target.pos then none
      else (inflected? f target.inflection word e).filter (keepsSyllables f o word)

def Table.randomWord (t : Table) (f : Word.Morphology) (o : SearchOptions) (r : Run) :
    Except Error String × Run :=
  let (start, r) := r.draw (·.below t.length)
  match (t.drop start ++ t.take start).findSome? fun (word, e) => form? f o word e with
  | some word => (.ok word, r)
  | none => (.error (.noRandomWord o), r)

def randomWord (l : Lexicon) (o : SearchOptions) (r : Run) :
    Except Error String × Lexicon × Run :=
  l.ask l.fatal r fun t r => t.randomWord l.morphology o r

end TextGen.Lexicon
