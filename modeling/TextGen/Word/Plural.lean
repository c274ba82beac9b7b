import TextGen.Word.Letter
import TextGen.Unicode.Property

/-! English plurals.
A few words have a plural of their own and many have none. The others follow the first rule that
fits the end of the word. A rule keeps what it matched, that is the run of word characters that
reaches up to the ending, and puts a suffix behind it; text before that run is dropped. -/
namespace TextGen.Word.Plural

def uncountable : List String :=
  ["accommodation adulthood advertising advice aggression aid air aircraft alcohol anger",
   "applause arithmetic assistance athletics bacon baggage beef biology blood botany bread",
   "butter carbon cardboard cash chalk chaos chess crossroads countryside dancing deer dignity",
   "dirt dust economics education electricity engineering enjoyment envy equipment ethics",
   "evidence evolution fame fiction flour flu food fuel fun furniture gallows garbage garlic",
   "genetics gold golf gossip grammar gratitude grief guilt gymnastics happiness hardware harm",
   "hate hatred health heat help homework honesty honey hospitality housework humour hunger",
   "hydrogen ice importance inflation information innocence iron irony jam jewelry judo karate",
   "knowledge lack laughter lava leather leisure lightning linguine linguini linguistics",
   "literature litter livestock logic loneliness luck luggage macaroni machinery magic",
   "management mankind marble mathematics mayonnaise measles methane milk money mud music mumps",
   "nature news nitrogen nonsense nurture nutrition obedience obesity oxygen pasta patience",
   "physics poetry pollution poverty pride psychology publicity punctuation quartz racism",
   "relaxation reliability research respect revenge rice rubbish rum safety scenery seafood",
   "seaside series shame sheep shopping sleep smoke smoking snow soap software soil spaghetti",
   "species steam stuff stupidity sunshine symmetry tennis thirst thunder timber traffic",
   "transportation trust underwear unemployment unity validity veal vegetation vegetarianism",
   "vengeance violence vitality warmth wealth weather welfare wheat wildlife wisdom yoga zinc",
   "zoology"].flatMap (·.splitOn " ")

def irregular : List (String × String) :=
  [("ox", "oxen"), ("man", "men"), ("woman", "women"), ("die", "dice"), ("yes", "yeses"),
   ("foot", "feet"), ("eave", "eaves"), ("goose", "geese"), ("tooth", "teeth"),
   ("quiz", "quizzes")]

/-- A letter of an ending: one of the given ones, or any other character. -/
inductive Letter where
  | oneOf (letters : String)
  | noneOf (letters : String)

def Letter.fits (l : Letter) (c : Char) : Bool :=
  match l with
  | oneOf letters => letters.toList.contains c
  | noneOf letters => !letters.toList.contains c

/-- A word fits if one of the tails ends it and one of the stems stands before the tail. -/
structure Rule where
  stems : List (List Letter)
  tails : List String
  suffix : String

def literally (s : String) : List Letter := s.toList.map fun c => .oneOf (String.singleton c)

def stemsOf (s : String) : List (List Letter) := (s.splitOn " ").map literally

/-- What a stem matches at the end of a reversed text, together with the word characters before
it, still reversed. -/
def reach? (stem : List Letter) (reversed : List Char) : Option (List Char) :=
  let n := stem.length
  let part := reversed.take n
  if part.length = n ∧ (stem.reverse.zip part).all (fun (l, c) => l.fits c) then
    some (part ++ (reversed.drop n).takeWhile Unicode.isWordChar)
  else none

/-- The longer of two matches; the first of two that are equally long. -/
def longer : Option (List Char) → Option (List Char) → Option (List Char)
  | some a, some b => if a.length < b.length then some b else some a
  | a, b => a.or b

/-- The part that a rule keeps. Among its stems the one that reaches back farthest counts. -/
def Rule.kept? (rule : Rule) (word : List Char) : Option (List Char) :=
  let bases := rule.tails.filterMap (dropEnding? · word)
  let matches_ := bases.flatMap fun base => rule.stems.map fun stem => reach? stem base.reverse
  (matches_.foldl longer none).map List.reverse

def rules : List Rule :=
  [⟨stemsOf "eaux", [""], ""⟩,
   ⟨stemsOf "child", ["ren", ""], "ren"⟩,
   ⟨stemsOf "person people", [""], "ople"⟩,
   ⟨stemsOf "mice lice mouse louse", [""], "ice"⟩,
   ⟨stemsOf "matr cod mur sil vert ind append", ["ix", "ex"], "ices"⟩,
   ⟨stemsOf "x ch ss sh zz", [""], "es"⟩,
   ⟨stemsOf "x ch ss sh zz", ["es"], "es"⟩,
   ⟨[[.noneOf "ch", .oneOf "ieo", .oneOf "ln"]], ["ey"], "ies"⟩,
   ⟨[.noneOf "aeiouy"] :: stemsOf "qu", ["y"], "ies"⟩,
   ⟨stemsOf "ar l ea eo oa hoo", ["f"], "ves"⟩,
   ⟨stemsOf "kni wi li", ["fe"], "ves"⟩,
   ⟨[[]], ["sis"], "ses"⟩,
   ⟨stemsOf "apheli hyperbat periheli asyndet noumen phenomen criteri organ prolegomen"
     ++ stemsOf "hedr automat", ["a", "on"], "a"⟩,
   ⟨stemsOf "agend addend millenni dat extrem bacteri desiderat strat candelabr errat ov"
     ++ stemsOf "symposi curricul automat quor", ["a", "um"], "a"⟩,
   ⟨stemsOf "her at gr", ["o"], "oes"⟩,
   ⟨stemsOf "seraph cherub", ["im", ""], "im"⟩,
   ⟨stemsOf "alumn alg vertebr", ["a", "ae"], "ae"⟩,
   ⟨stemsOf "alumn syllab octop vir radi nucle fung cact stimul termin bacill foc uter loc strat",
     ["us", "i"], "i"⟩,
   ⟨(.noneOf "l" :: literally "ias") :: (.oneOf "aeiou" :: literally "las")
     :: (.oneOf "emjzr" :: literally "as") :: [.oneOf "iu" :: literally "am"], [""], ""⟩,
   ⟨stemsOf "emu enu", ["s", ""], "s"⟩,
   ⟨(.noneOf "aou" :: literally "us") :: stemsOf "alias tlas gas ris", [""], "es"⟩,
   ⟨stemsOf "ax test", ["is"], "es"⟩,
   ⟨[.noneOf "aeiou" :: literally "ese"], [""], ""⟩,
   ⟨[[]], ["s"], "s"⟩]

/-- The first rule that fits decides; a word that fits none takes an `s`. -/
def byRules (word : String) : List Rule → String
  | [] => word ++ "s"
  | rule :: rest =>
    match rule.kept? word.toList with
    | some kept => String.ofList kept ++ rule.suffix
    | none => byRules word rest

end TextGen.Word.Plural

namespace TextGen.Word

def plural (word : String) : String :=
  if Plural.uncountable.contains word then word
  else match Plural.irregular.lookup word with
    | some form => form
    | none => Plural.byRules word Plural.rules

end TextGen.Word
