import TextGen.Word.Plural
import TextGen.Word.Syllable

/-! Inflection of English words.
`Morphology` is what the other parts of the library ask about words; `Morphology.regular` answers by
the rules of regular verbs and nouns and knows only two irregular verbs. -/
namespace TextGen.Word

inductive Number where
  | singular
  | plural
deriving DecidableEq, Repr

inductive Person where
  | first
  | second
  | third
deriving DecidableEq, Repr

inductive Tense where
  | past
  | present
  | future
deriving DecidableEq, Repr

structure Conjugation where
  number : Number := .singular
  person : Person := .first
  tense : Tense := .present
deriving DecidableEq, Repr

structure Morphology where
  pluralize : String → String
  conjugate : String → Conjugation → String
  presentParticiple : String → String
  pastParticiple : String → String
  syllables : String → String

def presentParticiple (verb : String) : String :=
  let cs := verb.toList
  match dropEnding? "ie" cs with
  | some stem => String.ofList stem ++ "ying"
  | none =>
    if hasEnding "ee" cs || hasEnding "ye" cs || hasEnding "oe" cs then verb ++ "ing"
    else match dropEnding? "e" cs with
      | some (c :: stem) => String.ofList (c :: stem) ++ "ing"
      | _ =>
        if doublesLast cs then verb ++ String.ofList (cs.getLast?.toList) ++ "ing"
        else verb ++ "ing"

def pastParticiple (verb : String) : String :=
  let cs := verb.toList
  match cs.reverse with
  | [] => ""
  | 'e' :: _ => verb ++ "d"
  | last :: rest =>
    match last, rest with
    | 'y', before :: _ =>
      if isVowel before then verb ++ "ed" else String.ofList rest.reverse ++ "ied"
    | _, _ =>
      if doublesLast cs then verb ++ String.singleton last ++ "ed" else verb ++ "ed"

def thirdPerson (verb : String) : String :=
  if verb = "be" then "is"
  else if verb = "have" then "has"
  else match verb.toList.reverse with
    | 'y' :: before :: rest =>
      if isVowel before then verb ++ "s" else String.ofList (before :: rest).reverse ++ "ies"
    | last :: rest =>
      if ['s', 'x', 'z', 'o'].contains last then verb ++ "es"
      else match last, rest with
        | 'h', 'c' :: _ => verb ++ "es"
        | 'h', 's' :: _ => verb ++ "es"
        | _, _ => verb ++ "s"
    | [] => "s"

def conjugate (verb : String) (form : Conjugation) : String :=
  if verb = "" then ""
  else match form.tense with
    | .past => pastParticiple verb
    | .future => "will " ++ verb
    | .present =>
      if form.number = .singular ∧ form.person = .third then thirdPerson verb else verb

def Morphology.regular : Morphology :=
  ⟨plural, Word.conjugate, Word.presentParticiple, Word.pastParticiple, Word.syllables⟩

end TextGen.Word
