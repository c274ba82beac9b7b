import TextGen.Pattern.Basic
import TextGen.Text.Search
import TextGen.Text.Split
import TextGen.Unicode.Age
import TextGen.Unicode.CaseChange
import TextGen.Unicode.Control
import TextGen.Unicode.Emoji
import TextGen.Unicode.GraphemeBreak
import TextGen.Unicode.Identifier
import TextGen.Unicode.Ideograph
import TextGen.Unicode.Modifier
import TextGen.Unicode.Punctuation
import TextGen.Unicode.SentenceBreak
import TextGen.Unicode.SharedScript
import TextGen.Unicode.WordBreak

/-! Sets of characters that have a name.
Names of properties are compared without regard to case, blanks, hyphens and underscores. -/
namespace TextGen.Pattern

open TextGen.Unicode (Category Property Ranges)

def allChars : Ranges := #[(0, Ranges.lastCode)]

/-! ### ASCII -/

def asciiSpaces : Ranges := #[(9, 13), (32, 32)]

def asciiDigits : Ranges := #[(48, 57)]

def asciiWords : Ranges := #[(48, 57), (65, 90), (95, 95), (97, 122)]

def asciiClass? (name : String) : Option Ranges :=
  match name with
  | "alnum" => some #[(48, 57), (65, 90), (97, 122)]
  | "alpha" => some #[(65, 90), (97, 122)]
  | "ascii" => some #[(0, 127)]
  | "blank" => some #[(9, 9), (32, 32)]
  | "cntrl" => some #[(0, 31), (127, 127)]
  | "digit" => some asciiDigits
  | "graph" => some #[(33, 126)]
  | "lower" => some #[(97, 122)]
  | "print" => some #[(32, 126)]
  | "punct" => some #[(33, 47), (58, 64), (91, 96), (123, 126)]
  | "space" => some asciiSpaces
  | "upper" => some #[(65, 90)]
  | "word" => some asciiWords
  | "xdigit" => some #[(48, 57), (65, 70), (97, 102)]
  | _ => none

/-- Adds the letters of ASCII that differ from one of the set only in case. -/
def foldAscii (set : Ranges) : Ranges :=
  let shifted (first last : Nat) (move : Nat → Nat) : List (Nat × Nat) :=
    (Ranges.inter set #[(first, last)]).toList.map fun (a, b) => (move a, move b)
  set.union (.ofList (shifted 65 90 (· + 32) ++ shifted 97 122 (· - 32)))

/-! ### Properties -/

def wordChars : Ranges := Property.word.ranges

def spaceChars : Ranges := Property.whiteSpace.ranges

def digitChars : Ranges := Category.ranges [.decimalNumber]

def longNames : List (String × String) :=
  [("letter", "l"), ("mark", "m"), ("combiningmark", "m"), ("number", "n"), ("punctuation", "p"),
   ("punct", "p"), ("symbol", "s"), ("separator", "z"), ("other", "c"), ("casedletter", "lc"),
   ("uppercaseletter", "lu"), ("lowercaseletter", "ll"), ("titlecaseletter", "lt"),
   ("modifierletter", "lm"), ("otherletter", "lo"), ("nonspacingmark", "mn"),
   ("spacingmark", "mc"), ("enclosingmark", "me"), ("decimalnumber", "nd"), ("digit", "nd"),
   ("letternumber", "nl"), ("othernumber", "no"), ("connectorpunctuation", "pc"),
   ("dashpunctuation", "pd"), ("openpunctuation", "ps"), ("closepunctuation", "pe"),
   ("initialpunctuation", "pi"), ("finalpunctuation", "pf"), ("otherpunctuation", "po"),
   ("mathsymbol", "sm"), ("currencysymbol", "sc"), ("modifiersymbol", "sk"),
   ("othersymbol", "so"), ("spaceseparator", "zs"), ("lineseparator", "zl"),
   ("paragraphseparator", "zp"), ("control", "cc"), ("cntrl", "cc"), ("format", "cf"),
   ("privateuse", "co"), ("unassigned", "cn")]

/-- The general categories with the given name, which may be the first letter of several. There are
no characters that are surrogates. -/
def categories? (name : String) : Option (List Category) :=
  match ((longNames.lookup name).getD name).toList with
  | ['l', 'c'] => some [.upperLetter, .lowerLetter, .titleLetter]
  | [g] =>
    match Category.names.filter fun (_, k) => k.group = g.toUpper with
    | [] => none
    | found => some (found.map (·.2))
  | [a, b] =>
    match Category.names.lookup (String.ofList [a.toUpper, b]) with
    | some .surrogate => none
    | found => found.map ([·])
  | _ => none

def categorySet? (name : String) : Option Ranges :=
  match name with
  | "any" => some allChars
  | "ascii" => asciiClass? "ascii"
  | "assigned" => some (Category.ranges [.unassigned]).complement
  | _ => (categories? name).map Category.ranges

/-- Properties that hold of a character or do not, with their names. -/
def binaryProperties : List (List String × Property) :=
  [(["ahex", "asciihexdigit"], .asciiHexDigit),
   (["alpha", "alphabetic"], .alphabetic),
   (["bidic", "bidicontrol"], .bidiControl),
   (["cased"], .cased),
   (["ci", "caseignorable"], .caseIgnorable),
   (["cwcf", "changeswhencasefolded"], .changesWhenCasefolded),
   (["cwcm", "changeswhencasemapped"], .changesWhenCasemapped),
   (["cwl", "changeswhenlowercased"], .changesWhenLowercased),
   (["cwt", "changeswhentitlecased"], .changesWhenTitlecased),
   (["cwu", "changeswhenuppercased"], .changesWhenUppercased),
   (["dash"], .dash),
   (["dep", "deprecated"], .deprecated),
   (["di", "defaultignorablecodepoint"], .defaultIgnorable),
   (["dia", "diacritic"], .diacritic),
   (["ebase", "emojimodifierbase"], .emojiModifierBase),
   (["ecomp", "emojicomponent"], .emojiComponent),
   (["emod", "emojimodifier"], .emojiModifier),
   (["emoji"], .emoji),
   (["epres", "emojipresentation"], .emojiPresentation),
   (["ext", "extender"], .extender),
   (["extpict", "extendedpictographic"], .extendedPictographic),
   (["grbase", "graphemebase"], .graphemeBase),
   (["grext", "graphemeextend"], .graphemeExtend),
   (["grlink", "graphemelink"], .graphemeLink),
   (["hex", "hexdigit"], .hexDigit),
   (["hyphen"], .hyphen),
   (["idc", "idcontinue"], .idContinue),
   (["idcompatmathcontinue"], .mathIdContinue),
   (["idcompatmathstart"], .mathIdStart),
   (["ideo", "ideographic"], .ideographic),
   (["ids", "idstart"], .idStart),
   (["idsb", "idsbinaryoperator"], .binaryDescription),
   (["idst", "idstrinaryoperator"], .trinaryDescription),
   (["idsu", "idsunaryoperator"], .unaryDescription),
   (["joinc", "joincontrol"], .joinControl),
   (["loe", "logicalorderexception"], .logicalOrderException),
   (["lower", "lowercase"], .lowercase),
   (["math"], .math),
   (["mcm", "modifiercombiningmark"], .modifierCombiningMark),
   (["nchar", "noncharactercodepoint"], .noncharacter),
   (["patsyn", "patternsyntax"], .patternSyntax),
   (["patws", "patternwhitespace"], .patternWhiteSpace),
   (["pcm", "prependedconcatenationmark"], .prependedMark),
   (["qmark", "quotationmark"], .quotationMark),
   (["radical"], .radical),
   (["ri", "regionalindicator"], .regionalIndicator),
   (["sd", "softdotted"], .softDotted),
   (["sterm", "sentenceterminal"], .sentenceTerminal),
   (["term", "terminalpunctuation"], .terminalPunctuation),
   (["uideo", "unifiedideograph"], .unifiedIdeograph),
   (["upper", "uppercase"], .uppercase),
   (["vs", "variationselector"], .variationSelector),
   (["wspace", "space", "whitespace"], .whiteSpace),
   (["xidc", "xidcontinue"], .xidContinue),
   (["xids", "xidstart"], .xidStart),
   (["odi", "otherdefaultignorablecodepoint"], .furtherIgnorable),
   (["oidc", "otheridcontinue"], .furtherIdContinue),
   (["oids", "otheridstart"], .furtherIdStart)]

/-- Properties with a part that has a name of its own: the characters that do not have the property
by their category. -/
def furtherProperties : List (List String × Property) :=
  [(["oalpha", "otheralphabetic"], .alphabetic),
   (["ogrext", "othergraphemeextend"], .graphemeExtend),
   (["olower", "otherlowercase"], .lowercase),
   (["omath", "othermath"], .math),
   (["oupper", "otheruppercase"], .uppercase)]

def binarySet? (name : String) : Option Ranges :=
  let find (properties : List (List String × Property)) : Option Property :=
    (properties.find? fun (names, _) => names.contains name).map (·.2)
  match find furtherProperties with
  | some p => some p.further
  | none => (find binaryProperties).map Property.ranges

/-- A name without what does not count in it. A leading `is` does not count either, unless a single
`c` follows it: that is the name of another property. -/
def plainName (name : List Char) : String :=
  let kept (cs : List Char) : List Char :=
    (cs.filter fun c => c.toNat < 128 && c ≠ ' ' && c ≠ '_' && c ≠ '-').map Char.toLower
  match name with
  | i :: s :: rest =>
    if i.toLower = 'i' ∧ s.toLower = 's' then
      String.ofList (if kept rest = ['c'] then ['i', 's', 'c'] else kept rest)
    else String.ofList (kept name)
  | _ => String.ofList (kept name)

def valueSet? (key value : String) : Option Ranges :=
  match key with
  | "gc" | "generalcategory" => categorySet? value
  | "sc" | "script" => (Unicode.Script.ofName? value).map Unicode.Script.ranges
  | "scx" | "scriptextensions" => (Unicode.Script.ofName? value).map Unicode.SharedScript.ranges
  | "age" => Unicode.Age.ofName? value
  | "gcb" | "graphemeclusterbreak" => (Unicode.GraphemeBreak.ofName? value).map Property.ranges
  | "wb" | "wordbreak" => (Unicode.WordBreak.ofName? value).map Property.ranges
  | "sb" | "sentencebreak" => (Unicode.SentenceBreak.ofName? value).map Property.ranges
  | _ => none

/-- Whether the property is one that must not hold, and its set: a name of its own, that of a
category or a script, or one of these after the name of the property. -/
def property? (text : List Char) : Option (Bool × Ranges) :=
  match Text.cut? "!=".toList text with
  | some (key, value) => (valueSet? (plainName key) (plainName value)).map (true, ·)
  | none =>
    match (Text.cut? [':'] text).or (Text.cut? ['='] text) with
    | some (key, value) => (valueSet? (plainName key) (plainName value)).map (false, ·)
    | none =>
      let name := plainName text
      let script := (Unicode.Script.ofName? name).map Unicode.Script.ranges
      (((binarySet? name).or (categorySet? name)).or script).map (false, ·)

end TextGen.Pattern
